import ZoneArbiter.Configuration
import ZoneArbiter.Keyed
import ZoneArbiter.Problem

/-!
# ZoneArbiter.Records — one configuration per user, loaded once

A user's record is loaded from a source when it is first asked for and kept from
then on; a replacement takes its place under the user that it names. **The source
is asked only for a user without a record** (`get_of_peek`), and what it answers is kept
among the records that are known by then. If it fails, nothing is kept.
-/

namespace ZoneArbiter

/-- The configurations known so far. -/
structure Records where
  /-- Each configuration under the user it was loaded for or names. -/
  byUser : Keyed Configuration := Keyed.empty
deriving Repr, DecidableEq

namespace Records

/-- The records before any was loaded. -/
def empty : Records := {}

/-- The record of a user, if it is known. -/
def peek (r : Records) (user : Int) : Option Configuration := r.byUser.get? user

/-- The records with one kept under a user. -/
def keep (r : Records) (user : Int) (c : Configuration) : Records := ⟨r.byUser.insert user c⟩

/-- The records with one in the place of what was known of the user it names. -/
def replace (r : Records) (c : Configuration) : Records := r.keep c.user c

/-- The users known, ascending. -/
def users (r : Records) : List Int := r.byUser.keys

/-- The record of a user, loaded if it is not known yet. Besides the source it is given how the
records are read and how they are revised: a source that calls back may have changed them by the
time it answers. -/
def get {m : Type → Type} [Monad m] (known : m Records) (revise : (Records → Records) → m Unit)
    (load : Int → m Configuration) (user : Int) : m Configuration := do
  match (← known).peek user with
  | some c => return c
  | none =>
      let c ← load user
      revise (·.keep user c)
      return c

section Get

variable {ε σ : Type} {known : EStateM ε σ Records}
  {revise : (Records → Records) → EStateM ε σ Unit} {load : Int → EStateM ε σ Configuration}
  {user : Int} {s : σ} {r : Records}

/-- A known record is answered without the source. -/
theorem get_of_peek {c : Configuration} (hknown : known s = .ok r s) (h : r.peek user = some c) :
    get known revise load user s = .ok c s := by
  show EStateM.bind known _ s = _
  rw [EStateM.bind, hknown]
  dsimp only
  rw [h]
  rfl

/-- For a user who is not known the source is asked, and its answer is kept. -/
theorem get_of_peek_none (hknown : known s = .ok r s) (h : r.peek user = none) :
    get known revise load user s =
      (do let c ← load user; revise (·.keep user c); return c : EStateM ε σ Configuration) s := by
  show EStateM.bind known _ s = _
  rw [EStateM.bind, hknown]
  dsimp only
  rw [h]

end Get

/-- Keeping a record changes what is known of its user only. -/
theorem peek_keep (r : Records) (user other : Int) (c : Configuration) :
    (r.keep user c).peek other = if other = user then some c else r.peek other :=
  r.byUser.get?_insert user other c

end Records

/-- A source that holds a fixed list of records and notes which users it is
asked for. -/
structure Archive where
  /-- The records, each under the user it answers for. -/
  records : List (Int × Configuration)
deriving Repr, DecidableEq

namespace Archive

/-- Ask the archive for the record of a user: the first one held for that user.
The question is noted whether or not there is an answer. -/
def load (archive : Archive) (user : Int) : EStateM Problem (List Int) Configuration := do
  modify (· ++ [user])
  match archive.records.lookup user with
  | some c => return c
  | none => throw (.noRecord user)

end Archive

end ZoneArbiter
