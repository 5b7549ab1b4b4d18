import ZoneArbiter.Proofs.Latest
import ZoneArbiter.Proofs.Surroundings

/-!
# ZoneArbiter.Proofs.Recall

**The table of telephony holds the last suggestion of every slot, over whole runs**
(`slots_recalled`). The suggestions made to an arbiter are read off the transcript
(`Contact.suggested`), those that the host and the listeners make among them.

A suggestion is recorded before anything is called that can fail, and nothing else touches the
table. Between being made and being recorded a suggestion is only logged, so that nobody can
come in between: the order of the suggestions written down is the order in which they were recorded.

Nothing is asked of the host, of its world between the calls, or of the listeners: all of them may
call the arbiter again, to any depth, and in a move as well (`Arbiter.Around`).
-/

namespace ZoneArbiter

open Arbiter (ListenerId Request)
open Telephony (Leads lastOf qualify)
open Transcribed (Aside Begins CallBack)

/-! ### Suggestions in a transcript -/

/-- What telephony suggests with the contact, if it is one to suggest something. -/
def Contact.suggestion? : Contact → Option TelephonySuggestion
  | .asked (.telephony suggestion) => some suggestion
  | _ => none

/-- What telephony has suggested in a transcript, oldest first. -/
def Contact.suggested (contacts : List Contact) : List TelephonySuggestion :=
  contacts.filterMap suggestion?

section Runs

variable {ω : Type} {free : ω → ω → Prop} {a : Arbiter (Transcribed ω)}
  {s : System (Transcribed ω)}

/-! ### What is kept -/

/-- The table holds the last suggestion of every slot. -/
def Recalls (s : System (Transcribed ω)) : Prop :=
  s.memory.telephony.Holds (Contact.suggested s.host.contacts)

/-- A contact that suggests nothing leaves the table what it should be. -/
theorem Recalls.jot (h : Recalls s) {contact : Contact} (hcontact : contact.suggestion? = none) :
    Recalls (s.jot contact) := by
  show s.memory.telephony.Holds (Contact.suggested (s.host.contacts ++ [contact]))
  rw [Contact.suggested, List.filterMap_append, List.filterMap_cons_none hcontact,
    List.filterMap_nil, List.append_nil]
  exact h

theorem Recalls.settled : Transcribed.Settled (Recalls (ω := ω)) where
  memory hs _ htelephony := by
    rw [Recalls, htelephony]
    exact hs
  onWorld _ hs := hs
  jot {_ contact} hquiet hs := hs.jot <| by
    cases contact with
    | asked r => exact hquiet.elim
    | _ => rfl

/-- The suggestion was made last, and is not in the table yet. -/
def Due (suggestion : TelephonySuggestion) (s : System (Transcribed ω)) : Prop :=
  ∃ before, Contact.suggested s.host.contacts = before ++ [suggestion] ∧
    s.memory.telephony.Holds before

theorem Due.hear {suggestion : TelephonySuggestion} (h : Due suggestion s) :
    Recalls (s.hear suggestion) := by
  obtain ⟨before, hmade, hholds⟩ := h
  show (s.memory.telephony.record suggestion).Holds (Contact.suggested s.host.contacts)
  rw [hmade]
  exact hholds.record suggestion

/-- **A call.** What it suggests is written down, and then recorded, whatever follows. -/
theorem Recalls.ask {P : {α : Type} → Effect (Transcribed ω) α → Prop} (hcalls : a.Calls P)
    (u : Upkeep a.noted Recalls) (r : Request) : (a.noted.ask r).Keeps Recalls := by
  intro s hs
  have hother (hr : ∀ suggestion, r ≠ .telephony suggestion)
      (hquiet : (Contact.asked r).suggestion? = none) :
      (a.noted.ask r).Ends s (fun _ s' => Recalls s') fun _ s' => Recalls s' :=
    u.serve r (fun suggestion h => absurd h (hr suggestion)) _ (hs.jot hquiet)
  cases r with
  | telephony suggestion =>
      have hdue : Due suggestion (s.jot (.asked (.telephony suggestion))) := by
        refine ⟨_, ?_, hs⟩
        show Contact.suggested (s.host.contacts ++ [_]) = _
        rw [Contact.suggested, List.filterMap_append]
        rfl
      have hlog {s : System (Transcribed ω)} (n : Notice) (h : Due suggestion s) :
          Due suggestion (a.host.log n s) := hcalls.keeps_log n fun _ => h
      exact u.suggestTelephony (J := Due suggestion) hlog suggestion Due.hear hdue
  | _ => exact hother nofun rfl

/-! ### Layers and runs -/

/-- An arbiter whose surroundings keep the table keeps it, in moves and in calls from outside as
well. -/
theorem Recalls.upkeep {P : {α : Type} → Effect (Transcribed ω) α → Prop} (hcalls : a.Calls P)
    (hmoves : a.Moves P) (hP : ∀ {α : Type} {e : Effect (Transcribed ω) α}, P e → e.Keeps Recalls) :
    Upkeep a.noted Recalls ∧ ∀ r, (a.noted.ask r).Keeps Recalls := by
  have hlog {s : System (Transcribed ω)} (n : Notice) (hs : Recalls s) :
      Recalls (a.host.log n s) := hcalls.keeps_log n fun _ => hs
  have hmove (zone : String) (cause : Cause) : (a.noted.moveTo zone cause).Keeps Recalls :=
    .moveTo ((hP hcalls.zoneInitialized).noted fun _ hs => hs.jot rfl)
      ((hP hcalls.deviceZone).noted fun _ hs => hs.jot rfl)
      (fun zone => (hP (hmoves.setDeviceZone zone)).noted fun _ hs => hs.jot rfl)
      ((hP hmoves.readClock).noted fun _ hs => hs.jot rfl) hlog (fun _ hs => hs) zone cause
  have u : Upkeep a.noted Recalls := Recalls.settled.upkeep hcalls hP hmove
  exact ⟨u, Recalls.ask hcalls u⟩

/-- **Layers.** The table is what it should be however deep the calls of the arbiter nest. -/
theorem Recalls.layered (h : Layered (Arbiter.Innermost free) (Arbiter.Around free) a) :
    Upkeep a.noted Recalls ∧ ∀ r, (a.noted.ask r).Keeps Recalls := by
  refine h.holds (P := fun a => Upkeep a.noted Recalls ∧ ∀ r, (a.noted.ask r).Keeps Recalls)
    (fun a h => ?_) fun inner outer h ⟨u, hask⟩ => ?_
  · exact Recalls.upkeep h.calls h.moves fun he => he.keeps Recalls.settled.aside
  · have hback {α : Type} {e : Effect (Transcribed ω) α} (he : CallBack free inner.noted e) :
        e.Keeps Recalls := Recalls.settled.callBack u hask he
    exact Recalls.upkeep h.calls h.moves fun he => he.keeps hback

/-- **Runs.** -/
theorem Recalls.reached {changes : ChangeLog} {w : ω}
    (hlayered : Layered (Arbiter.Innermost free) (Arbiter.Around free) a)
    (h : Effect.Reaches (CallBack free a.noted) (Begins changes w) s) : Recalls s := by
  obtain ⟨u, hask⟩ := Recalls.layered hlayered
  refine h.holds ?_ fun he => Recalls.settled.callBack u hask he
  rintro s ⟨user, rfl⟩
  exact .nil

/-- **Recall.** In every run, whatever the host, its world and the listeners do, calls of the
arbiter included, and whatever fails: what is answered about a slot is the last suggestion that was
made for it, with its score, and nothing if there was none. The best suggestion is the one of these
with the highest score, and among several the one of the lowest slot. So two runs in which the last
suggestions of all slots are the same have the same table. -/
theorem slots_recalled {changes : ChangeLog} {w : ω}
    (hlayered : Layered (Arbiter.Innermost free) (Arbiter.Around free) a)
    (h : Effect.Reaches (CallBack free a.noted) (Begins changes w) s) :
    (∀ slot, (a.noted.latestTelephony slot).Ends s
      (fun found _ => found = (lastOf slot (Contact.suggested s.host.contacts)).map qualify ∧
        (found = none ↔
          ∀ suggestion ∈ Contact.suggested s.host.contacts, suggestion.slot ≠ slot))
      fun _ _ => False) ∧
    ((Arbiter.bestTelephony : Effect (Transcribed ω) _).Ends s
      (fun best _ => (∀ q, best = some q ↔ Leads (Contact.suggested s.host.contacts) q) ∧
        (best = none ↔ Contact.suggested s.host.contacts = []))
      fun _ _ => False) ∧
    ∀ {ω' : Type} {free' : ω' → ω' → Prop} {a' : Arbiter (Transcribed ω')} {changes' : ChangeLog}
      {w' : ω'} {s' : System (Transcribed ω')},
      Layered (Arbiter.Innermost free') (Arbiter.Around free') a' →
      Effect.Reaches (CallBack free' a'.noted) (Begins changes' w') s' →
      (∀ slot, lastOf slot (Contact.suggested s'.host.contacts) =
        lastOf slot (Contact.suggested s.host.contacts)) →
      s'.memory.telephony = s.memory.telephony := by
  have hrecalls : s.memory.telephony.Holds (Contact.suggested s.host.contacts) :=
    Recalls.reached hlayered h
  refine ⟨fun slot => ?_, ⟨fun q => hrecalls.best?_eq_some_iff, hrecalls.best?_eq_none_iff⟩,
    fun hlayered' h' hlast => ?_⟩
  · refine Effect.Ends.memory ?_
    refine (Arbiter.notes_ends (J := fun _ => True) (fun _ _ => trivial) _ trivial).bind
      fun _ s' _ => ?_
    show s.memory.telephony.get? slot = _ ∧ (s.memory.telephony.get? slot = none ↔ _)
    rw [hrecalls.get?, Option.map_eq_none_iff, Telephony.lastOf_eq_none_iff]
    exact ⟨rfl, Iff.rfl⟩
  · exact (Recalls.reached hlayered' h').ext hrecalls hlast

end Runs

namespace Session

/-- A slot that is sure of a zone. -/
def sureOf (slot : Int) (zone : String) : TelephonySuggestion :=
  { slot, zone := some zone, quality := some .singleZone }

/-- An arbiter on a device that cannot be moved, and suggests Rome when it should be. -/
def outbid : Arbiter (Transcribed World) :=
  { unanswered with host := { unanswered.host with setDeviceZone := fun _ => do
      let _ ← Effect.attempt (unanswered.noted.ask (.telephony (sureOf 0 "Europe/Rome")))
      throw (.reported "stuck") } }

/-- Such a device calls back, in a move that fails. -/
theorem layered_outbid : Layered (Arbiter.Innermost fun _ _ => True)
    (Arbiter.Around fun _ _ => True) outbid := by
  have hcall {α : Type} (call : World.Call α) :
      Effect.MadeOf (CallBack (fun _ _ => True) unanswered.noted)
        (Effect.onHost (Transcribed.aside call)) := .basic (.aside (.of_call call))
  have hcalls : unanswered.Calls (Effect.MadeOf (CallBack (fun _ _ => True) unanswered.noted)) :=
    Arbiter.calls_aside _ hcall fun _ => .fail _
  have hmoves : unanswered.Moves (Effect.MadeOf (CallBack (fun _ _ => True) unanswered.noted)) :=
    Arbiter.moves_aside _ hcall
  refine .around (.innermost (Arbiter.innermost_aside _ _)) ⟨{ hcalls with }, { hmoves with
    setDeviceZone := fun _ => ?_ }⟩
  exact .bind (.attempt (.basic (.ask _))) fun _ => .fail _

end Session

open Session (World outbid sureOf) in
/-- The first suggestion ends in a fault, in the middle of which the device suggests Rome. Both are
recalled: slot 1 for Oslo, which comes later, and Rome is the best, for slot 0 is the lower one. -/
theorem slots_recalled_failing :
    let w : World := { (Session.Setup.plain ⟨1, true, true, true, true, false⟩ none).world with
      rig := some {} }
    let start : System (Transcribed World) := ⟨.fresh ⟨1, [], Nat.zero_le _⟩ 1, ⟨w, []⟩⟩
    let paris := outbid.noted.ask (.telephony (sureOf 1 "Europe/Paris"))
    let oslo := outbid.noted.ask (.telephony (sureOf 1 "Europe/Oslo"))
    let s := oslo.final (paris.final start)
    paris.fault? start = some (.reported "stuck") ∧
      (outbid.noted.latestTelephony 1).Ends s
        (fun found _ => found = some (qualify (sureOf 1 "Europe/Oslo"))) (fun _ _ => False) ∧
      (Arbiter.bestTelephony : Effect (Transcribed World) _).Ends s
        (fun best _ => best = some (qualify (sureOf 0 "Europe/Rome"))) fun _ _ => False := by
  intro w start paris oslo s
  have hreached : Effect.Reaches (CallBack (fun _ _ => True) outbid.noted)
      (Begins ⟨1, [], Nat.zero_le _⟩ w) s :=
    .step (.step (.start ⟨1, rfl⟩) (.ask _)) (.ask _)
  have hsuggested : Contact.suggested s.host.contacts =
      [sureOf 1 "Europe/Paris", sureOf 0 "Europe/Rome", sureOf 1 "Europe/Oslo"] := by
    decide +kernel
  refine ⟨by decide +kernel, ?_⟩
  -- From here on it is of no account how `s` was reached.
  clear_value s
  obtain ⟨hlatest, hbest, -⟩ := slots_recalled Session.layered_outbid hreached
  rw [hsuggested] at hbest
  have hlast : lastOf 1 (Contact.suggested s.host.contacts) = some (sureOf 1 "Europe/Oslo") := by
    rw [hsuggested]
    decide
  have hleads : Leads [sureOf 1 "Europe/Paris", sureOf 0 "Europe/Rome", sureOf 1 "Europe/Oslo"]
      (qualify (sureOf 0 "Europe/Rome")) := by
    refine ⟨by decide, rfl, fun suggestion hlast => ?_⟩
    have hmem := (Telephony.lastOf_eq_some hlast).1
    simp only [List.mem_cons, List.not_mem_nil, or_false] at hmem
    rcases hmem with rfl | rfl | rfl <;> exact .inr (by decide)
  refine ⟨(hlatest 1).mono (fun found _ h => ?_) fun _ _ h => h,
    hbest.mono (fun best _ h => (h.1 _).mpr hleads) fun _ _ h => h⟩
  rw [h.1, hlast, Option.map_some]

end ZoneArbiter
