import Mathlib.Data.List.Induction
import ZoneArbiter.Proofs.Freshness
import ZoneArbiter.Proofs.Scene.Likeness

/-!
# ZoneArbiter.Proofs.Queries

**What only asks is not noticed, unless it forestalls a change on the device**
(`unobserved_queries`). Two runs of a session take the same steps, and in one of them queries
are made in between. A query loads a record, and may make the device write one down; from
then on the two runs differ in what is held, though not in what is answered.

The difference comes out in two places, both by design. A record that was loaded is not
loaded again when the device changes it for a user in the background, and for the current user
it makes the change news. And a switch brings a record along only for a user who has none. A
step of these kinds is *forestalled* (`Session.Step.Forestalled`) if the two runs are not on
a par there; with no such step nothing is noticed, and `observed_queries` shows that a single one
is enough.
-/

namespace ZoneArbiter

open Session (Step World)

/-- The step only asks. -/
def Session.Step.Asks : Step → Prop
  | .current | .capabilities _ | .latestTelephony _ | .latestGeo | .best | .status .. => True
  | _ => False

theorem Session.Step.Asks.calm {step : Step} (h : step.Asks) : step.Calm := by
  cases step <;> trivial

namespace Session

/-- The steps of a script, without the queries that are made before each. -/
def plain (script : List (List Step × Step)) : List Step := script.map Prod.snd

/-- The steps of a script, each after the queries that are made before it. -/
def asked (script : List (List Step × Step)) : List Step :=
  script.flatMap fun entry => entry.1 ++ [entry.2]

/-- The script can be run with its queries and without, and no step is forestalled by the
queries made until then. -/
structure Comparable (bound : Nat) (s : System World) (script : List (List Step × Step)) :
    Prop where
  calm : ∀ entry ∈ script, entry.2.Calm
  asks : ∀ entry ∈ script, ∀ query ∈ entry.1, query.Asks
  faultless : Faultless bound s (plain script)
  faultless_asked : Faultless bound s (asked script)
  onPar : ∀ pre queries step post, script = pre ++ (queries, step) :: post →
    let without := after bound s (plain pre)
    let along := after bound s (asked pre ++ queries)
    ¬ step.Forestalled without.memory along.memory without.host.device along.host.device

variable {bound : Nat} {s : System World} {pre post : List (List Step × Step)}
  {queries : List Step} {step : Step}

theorem plain_append : plain (pre ++ post) = plain pre ++ plain post := List.map_append

theorem asked_append : asked (pre ++ post) = asked pre ++ asked post := List.flatMap_append

theorem plain_snoc : plain (pre ++ [(queries, step)]) = plain pre ++ [step] := plain_append

/-- Queries come before the step that they are asked before. -/
theorem asked_snoc : asked (pre ++ [(queries, step)]) = (asked pre ++ queries) ++ [step] := by
  simp [asked]

namespace Comparable

/-- What two runs compare by at the end, they compare by all the way. -/
theorem left (h : Comparable bound s (pre ++ post)) : Comparable bound s pre where
  calm entry hentry := h.calm entry (List.mem_append_left post hentry)
  asks entry hentry := h.asks entry (List.mem_append_left post hentry)
  faultless := by
    have hok := h.faultless
    rw [plain_append] at hok
    exact (faultless_append.mp hok).1
  faultless_asked := by
    have hok := h.faultless_asked
    rw [asked_append] at hok
    exact (faultless_append.mp hok).1
  onPar := by
    rintro front queries step back rfl
    exact h.onPar front queries step (back ++ post) (by simp)

theorem calm_plain (h : Comparable bound s pre) : ∀ step ∈ plain pre, step.Calm := by
  intro step hstep
  obtain ⟨entry, hentry, rfl⟩ := List.mem_map.mp hstep
  exact h.calm entry hentry

theorem calm_asked (h : Comparable bound s pre) : ∀ step ∈ asked pre, step.Calm := by
  intro step hstep
  obtain ⟨entry, hentry, hstep⟩ := List.mem_flatMap.mp hstep
  rcases List.mem_append.mp hstep with hstep | hstep
  · exact (h.asks entry hentry step hstep).calm
  · rw [List.mem_singleton.mp hstep]
    exact h.calm entry hentry

theorem calm_before (h : Comparable bound s (pre ++ [(queries, step)])) :
    ∀ step ∈ asked pre ++ queries, step.Calm := by
  have hasked := h.calm_asked
  rw [asked_snoc] at hasked
  exact (List.forall_mem_append.mp hasked).1

/-- What is known of the last step and the queries right before it. -/
theorem last (h : Comparable bound s (pre ++ [(queries, step)])) :
    step.Calm ∧ (∀ query ∈ queries, query.Asks) ∧
      (take bound step (after bound s (plain pre))).1.fault? = none ∧
      Faultless bound s (asked pre ++ queries) ∧
      (take bound step (after bound s (asked pre ++ queries))).1.fault? = none := by
  have hmem : (queries, step) ∈ pre ++ [(queries, step)] := by simp
  have hok := h.faultless
  have hok' := h.faultless_asked
  rw [plain_snoc] at hok
  rw [asked_snoc] at hok'
  exact ⟨h.calm _ hmem, h.asks _ hmem, (faultless_snoc.mp hok).2, faultless_snoc.mp hok'⟩

end Comparable

end Session

section Scene

variable {sc sc' : Scene} {step : Step} {steps : List Step}

theorem Scene.run_append (sc : Scene) (pre post : List Step) :
    sc.run (pre ++ post) = (sc.run pre).run post :=
  List.foldl_append

/-- Where nothing was called there is nothing to clear. -/
theorem Scene.clear_of_calls (h : sc.calls = []) : sc.clear = sc := by
  rw [clear, ← h]

/-- Alike scenes give the same answer. -/
theorem Scene.Alike.answer?_eq (h : sc.Alike sc') (step : Step) :
    sc'.answer? step = sc.answer? step := by
  have hcurrent := h.currentUser
  obtain ⟨known, held, hsame⟩ := h.same
  have hmemory : sc'.memory = { sc.memory with records := known } := by
    rw [hsame]
    rfl
  have hzone : sc'.device.zone = sc.device.zone := by
    rw [hsame]
    rfl
  cases step <;> simp only [answer?, update_fst, manual_fst, h.known, h.held, hcurrent, hmemory,
    hzone]

/-- A query is not noticed. -/
theorem Scene.alike_of_asks (hcalls : sc.calls = []) (hasks : step.Asks) :
    sc.Alike (sc.after step).clear := by
  have hafter : sc.Alike (sc.after step) := by
    cases step with
    | current | capabilities | status => exact alike_load sc _
    | latestTelephony | latestGeo | best => exact .refl sc
    | _ => exact hasks.elim
  have hclear : sc.clear.Alike (sc.after step).clear := hafter.oblivious .clear
  rwa [clear_of_calls hcalls] at hclear

/-- Nor are any number of them. -/
theorem Scene.alike_of_queries (hcalls : sc.calls = []) (hasks : ∀ step ∈ steps, step.Asks) :
    sc.Alike (sc.run steps) := by
  induction steps generalizing sc with
  | nil => exact .refl sc
  | cons step rest ih =>
      obtain ⟨hstep, hrest⟩ := List.forall_mem_cons.mp hasks
      exact (alike_of_asks hcalls hstep).trans (ih rfl hrest)

end Scene

section Runs

open Session (after take Comparable plain asked told)

variable {bound : Nat} {s s' : System World} {sc sc' : Scene} {step : Step} {queries : List Step}
  {pre script : List (List Step × Step)}

/-- With the queries or without, the last step of a script leads from scenes that are alike to
scenes that are alike. -/
theorem Session.Comparable.alike_after (h : Comparable bound s (pre ++ [(queries, step)]))
    (hs : Shows s sc) (hcoherent : Coherent sc.memory sc.device)
    (hbefore : (sc.run (plain pre)).Alike (sc.run (asked pre ++ queries))) :
    ((sc.run (plain pre)).after step).Alike ((sc.run (asked pre ++ queries)).after step) := by
  obtain ⟨hcalm, -, -, hok', -⟩ := h.last
  have hplain := h.left.calm_plain
  have heven := h.onPar pre queries step [] rfl
  simp only [(hs.after hplain h.left.faultless).memory, (hs.after hplain h.left.faultless).device,
    (hs.after h.calm_before hok').memory, (hs.after h.calm_before hok').device] at heven
  exact hbefore.after (hcoherent.run hplain) (hcoherent.run h.calm_before) hcalm heven

/-- **Runs.** With the queries or without, a script leads to scenes that are alike. -/
theorem Session.Comparable.run (h : Comparable bound s script) (hs : Shows s sc)
    (hcoherent : Coherent sc.memory sc.device) (hcalls : sc.calls = []) :
    (sc.run (plain script)).Alike (sc.run (asked script)) := by
  -- What is alike depends on all that was asked before, so the script is taken from its end.
  induction script using List.reverseRecOn with
  | nil => exact .refl sc
  | append_singleton pre entry ih =>
      obtain ⟨queries, step⟩ := entry
      obtain ⟨-, hasks, -⟩ := h.last
      have hbefore : (sc.run (plain pre)).Alike (sc.run (asked pre ++ queries)) := by
        rw [Scene.run_append]
        exact (ih h.left).trans (Scene.alike_of_queries (Scene.calls_run hcalls _) hasks)
      rw [Session.plain_snoc, Session.asked_snoc, Scene.run_append, Scene.run_append]
      exact (h.alike_after hs hcoherent hbefore).oblivious .clear

/-- The zone that is seen after a step is the device's. -/
theorem Session.zone_take (bound : Nat) (step : Step) (s : System World) :
    (take bound step s).1.after.zone = (take bound step s).2.host.device.zone := by
  unfold Session.take
  split <;> rfl

/-- From scenes that are alike to scenes that are alike a step is seen to do the same. -/
theorem Shows.take_alike (hs : Shows s sc) (hs' : Shows s' sc') (hbefore : sc.Alike sc')
    (hafter : (sc.after step).Alike (sc'.after step)) (hcalm : step.Calm)
    (hfault : (Session.take bound step s).1.fault? = none)
    (hfault' : (Session.take bound step s').1.fault? = none) :
    ((∀ args unit, step ≠ .status args unit) →
      (Session.take bound step s').1.outcome = (Session.take bound step s).1.outcome) ∧
    told (Session.take bound step s').1.events = told (Session.take bound step s).1.events ∧
    (Session.take bound step s').1.after.zone = (Session.take bound step s).1.after.zone := by
  obtain ⟨known, held, hsame⟩ := hafter.same
  refine ⟨fun hstatus => ?_, ?_, ?_⟩
  · cases hanswer : sc.answer? step with
    | some answer =>
        rw [hs.answers hcalm hanswer hfault,
          hs'.answers hcalm ((hbefore.answer?_eq step).trans hanswer) hfault']
    | none =>
        cases step with
        | invalid label problem => rfl
        | status args unit => exact absurd rfl (hstatus args unit)
        | _ => simp [Scene.answer?] at hanswer
  · rw [← Session.told_filter_isCall, hs'.calls_take hcalm hfault', hsame,
      ← Session.told_filter_isCall (Session.take bound step s).1.events,
      hs.calls_take hcalm hfault]
    rfl
  · rw [Session.zone_take, Session.zone_take, (hs.take hcalm hfault).device,
      (hs'.take hcalm hfault').device, Scene.clear_device, Scene.clear_device, hsame]
    rfl

/-- **What only asks is not noticed.** In a calm session, with any queries made in between, every
step is answered alike (the text of a status page aside), calls the listeners alike and leaves
the device in the same zone, as long as no query forestalls a step. -/
theorem unobserved_queries {setup : Session.Setup} (hsetup : setup.Calm)
    (hs : setup.system = .ok s) (h : Comparable bound s script)
    (pre : List (List Step × Step)) (queries : List Step) (step : Step)
    (post : List (List Step × Step)) (hsplit : script = pre ++ (queries, step) :: post) :
    let without := (take bound step (after bound s (plain pre))).1
    let along := (take bound step (after bound s (asked pre ++ queries))).1
    ((∀ args unit, step ≠ .status args unit) → along.outcome = without.outcome) ∧
      told along.events = told without.events ∧ along.after.zone = without.after.zone := by
  obtain ⟨changes, hstart, hfresh⟩ := hsetup.begins hs
  rw [List.append_cons] at hsplit
  subst hsplit
  replace h := h.left
  obtain ⟨hcalm, hasks, hfault, hok', hfault'⟩ := h.last
  have hbefore : ((setup.scene changes).run (plain pre)).Alike
      ((setup.scene changes).run (asked pre ++ queries)) := by
    rw [Scene.run_append]
    exact (h.left.run hstart hfresh rfl).trans
      (Scene.alike_of_queries (Scene.calls_run rfl _) hasks)
  exact (hstart.after h.left.calm_plain h.left.faultless).take_alike
    (hstart.after h.calm_before hok') hbefore (h.alike_after hstart hfresh hbefore) hcalm hfault
    hfault'

/-- A listener is registered and user 1 switches automatic detection on, then the device takes
its support away; other users are asked about in between. -/
def Session.looked : List (List Step × Step) :=
  [([.capabilities 2], .addListener "first" [] 0 none),
    ([.best, .latestGeo], .update 1 ⟨some true, none⟩),
    ([.current, .capabilities 3], .replace ⟨1, true, false, true, true, false⟩)]

/-- The record of user 1 is known with the queries and without, so the listener hears of its
change in both runs. -/
theorem unobserved_queries_looked :
    let s := Session.Setup.opening ⟨1, true, true, false, true, false⟩ none
    told (Session.take 0 (.replace ⟨1, true, false, true, true, false⟩)
      (after 0 s (asked (Session.looked.take 2) ++ [.current, .capabilities 3]))).1.events =
        ["first"] := by
  intro s
  have h : Comparable 0 s Session.looked := by
    refine ⟨?_, ?_, by decide +kernel, by decide +kernel, ?_⟩
    · simp [Session.looked, Step.Calm]
    · simp [Session.looked, Step.Asks]
    · intro pre queries step post hsplit
      -- Three entries to be looked at; only the last one replaces a record.
      obtain _ | ⟨first, _ | ⟨second, _ | ⟨third, pre⟩⟩⟩ := pre <;>
        simp [Session.looked] at hsplit
      · obtain ⟨⟨rfl, rfl⟩, -⟩ := hsplit
        exact id
      · obtain ⟨rfl, ⟨rfl, rfl⟩, -⟩ := hsplit
        exact id
      · obtain ⟨rfl, rfl, ⟨rfl, rfl⟩, -⟩ := hsplit
        exact fun hforestalled => hforestalled.2 (by decide +kernel)
  have hs : (Session.Setup.plain ⟨1, true, true, false, true, false⟩ none).system = .ok s :=
    Session.Setup.system_plain _ none
  obtain ⟨-, htold, -⟩ := unobserved_queries (Session.Setup.calm_plain _ none) hs h
    (Session.looked.take 2) [.current, .capabilities 3]
    (.replace ⟨1, true, false, true, true, false⟩) [] rfl
  rw [htold]
  decide +kernel

/-- On a new device of user 1, whether user 2 was asked about decides whether a restriction of
user 2 in the background is in force afterwards, and whether the current user was asked about
decides whether the listeners hear of a change. -/
theorem observed_queries :
    let s := Session.Setup.opening ⟨1, true, true, false, true, false⟩ none
    let restriction := ([.capabilities 2], .replace ⟨2, false, true, false, true, false⟩)
    let change : Step := .replace ⟨1, true, true, true, true, false⟩
    let listener : List Step × Step := ([], .addListener "first" [] 0 none)
    (Session.take 0 (.manual 2 ⟨"Europe/Oslo"⟩) (after 0 s (plain [restriction]))).1.outcome =
        .ok (.flag false) ∧
      (Session.take 0 (.manual 2 ⟨"Europe/Oslo"⟩) (after 0 s (asked [restriction]))).1.outcome =
        .ok (.flag true) ∧
      (Session.take 0 (.manual 2 ⟨"Europe/Oslo"⟩)
        (after 0 s (plain [restriction]))).1.after.zone = none ∧
      (Session.take 0 (.manual 2 ⟨"Europe/Oslo"⟩)
        (after 0 s (asked [restriction]))).1.after.zone = some "Europe/Oslo" ∧
      told (Session.take 0 change (after 0 s (plain [listener]))).1.events = [] ∧
      told (Session.take 0 change (after 0 s (asked [listener] ++ [.current]))).1.events =
        ["first"] := by
  decide +kernel

end Runs

end ZoneArbiter
