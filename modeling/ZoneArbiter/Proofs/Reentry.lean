import ZoneArbiter.Arbiter.Overview
import ZoneArbiter.Proofs.Boundary

/-!
# ZoneArbiter.Proofs.Reentry

**Whoever an arbiter calls may call an arbiter back, to any depth.** What is done in between is made
of basic effects, some of them calls of an arbiter, one after another (`Effect.MadeOf`). The arbiter
that is called back has surroundings of its own, which may call back in turn, so that surroundings
come in layers (`Layered`); and a run is any number of basic effects from outside, each on the
system that the one before has left (`Effect.Reaches`).

What basic effects keep, all of this keeps: one induction for each (`Effect.MadeOf.keeps`,
`Layered.holds`, `Effect.Reaches.holds`), whatever the basic effects and whatever is kept.
-/

namespace ZoneArbiter

open Arbiter (ListenerId)

/-! ### Calls from outside -/

/-- A call of the arbiter from outside. -/
inductive Arbiter.Request
  | current
  | capabilities (user : Int)
  | update (user : Int) (change : ConfigurationChange)
  | manual (user : Int) (pick : ManualSuggestion)
  | telephony (suggestion : TelephonySuggestion)
  | geo (suggestion : GeoSuggestion)
  | latestTelephony (slot : Int)
  | latestGeo
  | best
  | addListener (id : ListenerId)
  | addAppendix (appendix : Status.Appendix)
  | status (args : List String) (page : Status.Page)

/-- The arbiter's part in a call, whatever it answers. -/
def Arbiter.serve {ω : Type} (a : Arbiter ω) : Request → Effect ω Unit
  | .current => do let _ ← a.currentRecord
  | .capabilities user => do let _ ← a.capabilitiesAndSettings user
  | .update user change => do let _ ← a.updateConfiguration user change
  | .manual user pick => do let _ ← a.suggestManual user pick
  | .telephony suggestion => a.suggestTelephony suggestion
  | .geo suggestion => a.suggestGeo suggestion
  | .latestTelephony slot => do let _ ← a.latestTelephony slot
  | .latestGeo => do let _ ← Arbiter.latestGeo
  | .best => do let _ ← Arbiter.bestTelephony
  | .addListener id => Arbiter.addListener id
  | .addAppendix appendix => Arbiter.addAppendix appendix
  | .status args page => do let _ ← a.overview args page

namespace Effect

variable {ω α β : Type} {e : Effect ω α} {f : α → Effect ω β} {s : System ω}
  {I : System ω → Prop}

/-! ### What an effect leaves -/

/-- The system that an effect leaves, whether it answers or fails. -/
def final (e : Effect ω α) (s : System ω) : System ω :=
  match e s with
  | .ok _ s' | .error _ s' => s'

/-- The fault that an effect ends in, if it does. -/
def fault? (e : Effect ω α) (s : System ω) : Option Fault :=
  match e s with
  | .ok _ _ => none
  | .error f _ => some f

namespace Ends

variable {fault : Fault} {Q : α → System ω → Prop} {E : Fault → System ω → Prop}

/-- What holds at either end holds of the system that is left. -/
theorem final {P : System ω → Prop} (h : e.Ends s Q E) (hQ : ∀ x s', Q x s' → P s')
    (hE : ∀ f s', E f s' → P s') : P (e.final s) := by
  unfold Effect.final
  obtain ⟨x, s', hrun, hend⟩ | ⟨fault, s', hrun, hend⟩ := h.cases <;> rw [hrun]
  · exact hQ x s' hend
  · exact hE fault s' hend

theorem answered (h : e.Ends s Q E) (hnone : e.fault? s = none) : ∃ x, Q x (e.final s) := by
  unfold Effect.fault? at hnone
  unfold Effect.final
  obtain ⟨x, s', hrun, hend⟩ | ⟨fault, s', hrun, -⟩ := h.cases <;> rw [hrun] at hnone ⊢
  · exact ⟨x, hend⟩
  · cases hnone

theorem failed (h : e.Ends s Q E) (hfault : e.fault? s = some fault) : E fault (e.final s) := by
  unfold Effect.fault? at hfault
  unfold Effect.final
  obtain ⟨x, s', hrun, -⟩ | ⟨fault, s', hrun, hend⟩ := h.cases <;> rw [hrun] at hfault ⊢
  · cases hfault
  · cases hfault
    exact hend

end Ends

/-! ### Effects that keep a condition -/

/-- However the effect ends, the condition holds then if it held before. A fault leaves the
system as it is at that moment, so the condition holds wherever a fault can strike. -/
def Keeps (I : System ω → Prop) (e : Effect ω α) : Prop :=
  ∀ s, I s → e.Ends s (fun _ s' => I s') fun _ s' => I s'

namespace Keeps

theorem pure (x : α) : Keeps I (Pure.pure x : Effect ω α) := fun _ h => h

theorem fail (fault : Fault) : Keeps I (throw fault : Effect ω α) := fun _ h => h

/-- To look at everything touches nothing. -/
theorem look : Keeps I (get : Effect ω (System ω)) := fun _ h => h

theorem bind (h : e.Keeps I) (hf : ∀ x, (f x).Keeps I) : (e >>= f).Keeps I :=
  fun s hs => (h s hs).bind fun x s' hs' => hf x s' hs'

theorem memory {f : Arbiter.Memory → Effect ω β} (hf : ∀ m, (f m).Keeps I) :
    (Effect.memory >>= f).Keeps I :=
  fun s hs => hf s.memory s hs

/-- A fault that is caught has left the condition in force. -/
theorem attempt (h : e.Keeps I) : (Effect.attempt e).Keeps I := by
  intro s hs
  obtain ⟨x, s', hrun, hend⟩ | ⟨fault, s', hrun, hend⟩ := (h s hs).cases
  · exact .of_ok (by rw [Effect.attempt, hrun]) hend
  · exact .of_ok (by rw [Effect.attempt, hrun]) hend

/-- A line under a condition, and what follows it either way. -/
theorem when {p : Prop} [Decidable p] {line : Effect ω Unit} {rest : Unit → Effect ω α}
    (hline : line.Keeps I) (hrest : (rest ()).Keeps I) :
    (if p then line >>= rest else rest ()).Keeps I := by
  split
  · exact hline.bind fun _ => hrest
  · exact hrest

theorem forM {items : List α} {f : α → Effect ω Unit} (hf : ∀ x, (f x).Keeps I) :
    (items.forM f).Keeps I := by
  induction items with
  | nil => exact pure ()
  | cons x rest ih => exact (hf x).bind fun _ => ih

theorem final (h : e.Keeps I) (hs : I s) : I (e.final s) :=
  (h s hs).final (fun _ _ hend => hend) fun _ _ hend => hend

end Keeps

/-! ### Effects made of others -/

/-- Basic effects, and what is made of these one after another. A fault ends it unless it is
caught. -/
inductive MadeOf (basic : {α : Type} → Effect ω α → Prop) : {α : Type} → Effect ω α → Prop
  | basic {α : Type} {e : Effect ω α} (h : basic e) : MadeOf @basic e
  | ret {α : Type} (x : α) : MadeOf @basic (pure x)
  | fail {α : Type} (fault : Fault) : MadeOf @basic (throw fault : Effect ω α)
  | bind {α β : Type} {e : Effect ω α} {f : α → Effect ω β} (h : MadeOf @basic e)
      (hf : ∀ x, MadeOf @basic (f x)) : MadeOf @basic (e >>= f)
  | attempt {α : Type} {e : Effect ω α} (h : MadeOf @basic e) : MadeOf @basic (Effect.attempt e)

variable {basic : {α : Type} → Effect ω α → Prop}

/-- **What is made of basic effects keeps what these keep.** -/
theorem MadeOf.keeps (h : MadeOf @basic e)
    (hbasic : ∀ {α : Type} {e : Effect ω α}, basic e → e.Keeps I) : e.Keeps I := by
  induction h with
  | basic h => exact hbasic h
  | ret x => exact .pure x
  | fail fault => exact .fail fault
  | bind _ _ ih ihf => exact ih.bind ihf
  | attempt _ ih => exact ih.attempt

/-! ### Runs -/

/-- The systems that basic effects lead to from a system with `start`, each effect on the system
that the one before has left, whether that one answered or failed. -/
inductive Reaches (basic : {α : Type} → Effect ω α → Prop) (start : System ω → Prop) :
    System ω → Prop
  | start {s : System ω} (h : start s) : Reaches @basic start s
  | step {s : System ω} (h : Reaches @basic start s) {α : Type} {e : Effect ω α} (he : basic e) :
      Reaches @basic start (e.final s)

variable {start : System ω → Prop}

/-- **What holds at the start and is kept by basic effects holds in every run.** -/
theorem Reaches.holds (h : Reaches @basic start s) (hstart : ∀ s, start s → I s)
    (hbasic : ∀ {α : Type} {e : Effect ω α}, basic e → e.Keeps I) : I s := by
  induction h with
  | start h => exact hstart _ h
  | step _ he ih => exact (hbasic he).final ih

end Effect

/-! ### Layers -/

/-- What is built up from something innermost by putting one thing around another. -/
inductive Layered {τ : Type} (innermost : τ → Prop) (around : τ → τ → Prop) : τ → Prop
  | innermost {t : τ} (h : innermost t) : Layered innermost around t
  | around {inner outer : τ} (h : Layered innermost around inner) (h' : around inner outer) :
      Layered innermost around outer

section Layers

variable {τ : Type} {innermost : τ → Prop} {around : τ → τ → Prop} {t : τ}

/-- **What holds innermost and is handed outwards holds of every layer.** -/
theorem Layered.holds {P : τ → Prop} (h : Layered innermost around t)
    (hinnermost : ∀ t, innermost t → P t)
    (haround : ∀ inner outer, around inner outer → P inner → P outer) : P t := by
  induction h with
  | innermost h => exact hinnermost _ h
  | around _ h' ih => exact haround _ _ h' ih

end Layers

end ZoneArbiter
