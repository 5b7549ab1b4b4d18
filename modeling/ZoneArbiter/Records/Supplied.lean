import ZoneArbiter.Records

/-!
# ZoneArbiter.Records.Supplied — records beside the source that supplies them

A source has a state of its own, it may fail, and it may answer with a record that
names another user than the one it was asked about. Such a record is kept under
the user it was asked for, while a replacement is kept under the user that it
names: what is known of a user need not name that user.

A source does not reach the records, so that **a request that fails leaves them as
they were** (`records_of_error`); what the source did before it failed stays done.
-/

namespace ZoneArbiter

/-- Records, and the state of the source that they are loaded from. -/
structure Supplied (σ : Type) where
  /-- The records known so far. -/
  records : Records := .empty
  /-- The state of the source. -/
  source : σ

namespace Supplied

/-- What can be asked of records. -/
inductive Request
  /-- The record of a user, loaded if it is not known yet. -/
  | get (user : Int)
  /-- What is known of a user. -/
  | peek (user : Int)
  /-- To put a record in the place of what was known of the user it names. -/
  | replace (c : Configuration)
  /-- Who is known. -/
  | users
deriving Repr, DecidableEq

/-- What a request is answered with. -/
inductive Answer
  /-- The record of a user. -/
  | record (c : Configuration)
  /-- What is known of a user, or was until it was replaced. -/
  | known (c : Option Configuration)
  /-- The users known, ascending. -/
  | users (users : List Int)
deriving Repr, DecidableEq

variable {ε σ : Type}

/-- A call of the source, which does not reach the records. -/
def onSource {α : Type} (call : EStateM ε σ α) : EStateM ε (Supplied σ) α := fun s =>
  match call s.source with
  | .ok a source => .ok a { s with source }
  | .error e source => .error e { s with source }

/-- The records known by now. -/
def known : EStateM ε (Supplied σ) Records := return (← get).records

/-- Change the records. -/
def revise (f : Records → Records) : EStateM ε (Supplied σ) Unit :=
  modify fun s => { s with records := f s.records }

/-- Do what is asked, with a source to load from. -/
def perform (load : Int → EStateM ε σ Configuration) : Request → EStateM ε (Supplied σ) Answer
  | .get user => do
      return .record (← Records.get known revise (fun user => onSource (load user)) user)
  | .peek user => return .known ((← known).peek user)
  | .replace c => do
      let replaced := (← known).peek c.user
      revise (·.replace c)
      return .known replaced
  | .users => return .users (← known).users

variable {load : Int → EStateM ε σ Configuration} {s : Supplied σ} {user : Int}

theorem known_eq (s : Supplied σ) :
    (known : EStateM ε (Supplied σ) Records) s = .ok s.records s := rfl

/-- A known record is answered without the source. -/
theorem perform_get_of_peek {c : Configuration} (h : s.records.peek user = some c) :
    perform load (.get user) s = .ok (.record c) s := by
  show EStateM.bind (Records.get known revise _ user) _ s = _
  rw [EStateM.bind, Records.get_of_peek (known_eq s) h]
  rfl

/-- For a user who is not known the source decides: its record is kept, its failure is passed on. -/
theorem perform_get_of_peek_none (h : s.records.peek user = none) :
    perform load (.get user) s =
      match load user s.source with
      | .ok c source => .ok (.record c) ⟨s.records.keep user c, source⟩
      | .error e source => .error e { s with source } := by
  have hget : Records.get known revise (fun user => onSource (load user)) user s =
      match load user s.source with
      | .ok c source => .ok c ⟨s.records.keep user c, source⟩
      | .error e source => .error e { s with source } := by
    rw [Records.get_of_peek_none (known_eq s) h]
    show EStateM.bind (onSource (load user)) _ s = _
    rw [EStateM.bind, onSource]
    cases load user s.source <;> rfl
  show EStateM.bind (Records.get known revise _ user) _ s = _
  rw [EStateM.bind, hget]
  cases load user s.source <;> rfl

/-- A request that fails leaves the records as they were. -/
theorem records_of_error {r : Request} {e : ε} {s' : Supplied σ}
    (h : perform load r s = .error e s') : s'.records = s.records := by
  cases r with
  | get user =>
      cases hpeek : s.records.peek user with
      | some c =>
          rw [perform_get_of_peek hpeek] at h
          cases h
      | none =>
          rw [perform_get_of_peek_none hpeek] at h
          cases hload : load user s.source with
          | ok c source =>
              rw [hload] at h
              cases h
          | error f source =>
              rw [hload] at h
              cases h
              rfl
  | _ => cases h

end Supplied

end ZoneArbiter
