import ZoneArbiter.Records.Supplied

/-!
# ZoneArbiter.Proofs.Loading — records are loaded once

**What is known of a user is what was filed last under that user** (`Holds`): a record that was
loaded for the user, whoever it names, or a replacement that names the user. The source is asked
only for a user under whom nothing was filed, so that a history of requests explains every answer in
it (`Follows`), and a user is loaded at most once (`loaded_once`).

A history tells of every request how it ended and which loads it led to. The loads are written down
beside the state of the source (`tallied`), which is left as it is and may change in any way between
two requests.
-/

namespace ZoneArbiter.Supplied

variable {ε σ : Type}

/-! ### Histories -/

/-- A load: the user that the source was asked about, and how it ended. -/
structure Load (ε : Type) where
  user : Int
  ended : Except ε Configuration

/-- A state of a source, with the loads so far. -/
structure Tallied (ε σ : Type) where
  world : σ
  loads : List (Load ε)

/-- The source, with every load written down once it has ended. -/
def tallied (load : Int → EStateM ε σ Configuration) (user : Int) :
    EStateM ε (Tallied ε σ) Configuration := fun t =>
  match load user t.world with
  | .ok c world => .ok c ⟨world, t.loads ++ [⟨user, .ok c⟩]⟩
  | .error e world => .error e ⟨world, t.loads ++ [⟨user, .error e⟩]⟩

/-- The state, with no load written down yet. -/
def tally (s : Supplied σ) : Supplied (Tallied ε σ) := ⟨s.records, s.source, []⟩

/-- A request, the loads that it led to, and how it ended. -/
structure Entry (ε : Type) where
  request : Request
  loads : List (Load ε)
  ended : Except ε Answer

/-- A request as it is entered in a history, and the state that it leaves. -/
def enter (load : Int → EStateM ε σ Configuration) (r : Request) (s : Supplied σ) :
    Entry ε × Supplied σ :=
  match perform (tallied load) r s.tally with
  | .ok a t => (⟨r, t.source.loads, .ok a⟩, ⟨t.records, t.source.world⟩)
  | .error e t => (⟨r, t.source.loads, .error e⟩, ⟨t.records, t.source.world⟩)

/-- What can be reached from no records, and the history that leads there. The source may have any
state in the beginning, and between any two requests it may change in any way. -/
inductive Reaches (load : Int → EStateM ε σ Configuration) :
    List (Entry ε) → Supplied σ → Prop
  | start (source : σ) : Reaches load [] ⟨.empty, source⟩
  | perform {history : List (Entry ε)} {s : Supplied σ} (h : Reaches load history s)
      (r : Request) : Reaches load (history ++ [(enter load r s).1]) (enter load r s).2
  | outside {history : List (Entry ε)} {s : Supplied σ} (h : Reaches load history s)
      (source : σ) : Reaches load history { s with source }

/-! ### What was filed -/

/-- The records that a request loaded, each under the user that it was loaded for. -/
def Entry.loaded (entry : Entry ε) : List (Int × Configuration) :=
  entry.loads.filterMap fun l => l.ended.toOption.map (l.user, ·)

/-- What a request files, and under whom: the records that it loaded, and a replacement under the
user that it names. -/
def Entry.filed (entry : Entry ε) : List (Int × Configuration) :=
  entry.loaded ++
    match entry.request with
    | .replace c => [(c.user, c)]
    | _ => []

/-- The record that was filed last under a user, if one was. -/
def lastFiled (history : List (Entry ε)) (user : Int) : Option Configuration :=
  ((history.flatMap Entry.filed).filter (·.1 = user)).getLast?.map Prod.snd

section Filed

variable {history : List (Entry ε)} {entry : Entry ε} {user : Int} {c : Configuration}

theorem lastFiled_snoc_of_nil (h : entry.filed = []) (user : Int) :
    lastFiled (history ++ [entry]) user = lastFiled history user := by
  simp [lastFiled, h]

theorem lastFiled_snoc {other : Int} (h : entry.filed = [(other, c)]) (user : Int) :
    lastFiled (history ++ [entry]) user =
      if user = other then some c else lastFiled history user := by
  rw [lastFiled, List.flatMap_append, List.filter_append]
  split
  · rename_i heq
    simp [h, heq]
  · rename_i hne
    simp [lastFiled, h, Ne.symm hne]

theorem lastFiled_eq_none_iff :
    lastFiled history user = none ↔ ∀ c, (user, c) ∉ history.flatMap Entry.filed := by
  simp only [lastFiled, Option.map_eq_none_iff, List.getLast?_eq_none_iff, List.filter_eq_nil_iff,
    decide_eq_true_eq]
  exact ⟨fun h c hmem => h _ hmem rfl, fun h entry hmem heq => h entry.2 (heq ▸ hmem)⟩

end Filed

/-! ### One request -/

/-- The entries that can follow a history. A request is explained by what was filed before it, and
by the source where nothing was filed. -/
inductive Follows (history : List (Entry ε)) : Entry ε → Prop
  /-- Something was filed under the user. -/
  | found {user : Int} {c : Configuration} (h : lastFiled history user = some c) :
      Follows history ⟨.get user, [], .ok (.record c)⟩
  /-- Nothing was, and the source supplies a record, whoever that names. -/
  | supplied {user : Int} (h : lastFiled history user = none) (c : Configuration) :
      Follows history ⟨.get user, [⟨user, .ok c⟩], .ok (.record c)⟩
  /-- Nothing was, and the source fails. -/
  | refused {user : Int} (h : lastFiled history user = none) (e : ε) :
      Follows history ⟨.get user, [⟨user, .error e⟩], .error e⟩
  | peeked (user : Int) :
      Follows history ⟨.peek user, [], .ok (.known (lastFiled history user))⟩
  /-- The answer is what the record takes the place of. -/
  | replaced (c : Configuration) :
      Follows history ⟨.replace c, [], .ok (.known (lastFiled history c.user))⟩
  | listed {users : List Int} (hascending : users.Pairwise (· < ·))
      (hmem : ∀ user, user ∈ users ↔ ∃ c, (user, c) ∈ history.flatMap Entry.filed) :
      Follows history ⟨.users, [], .ok (.users users)⟩

/-- What is known of every user is what was filed last. -/
def Holds (history : List (Entry ε)) (s : Supplied σ) : Prop :=
  ∀ user, s.records.peek user = lastFiled history user

section Step

variable {load : Int → EStateM ε σ Configuration} {history : List (Entry ε)} {entry : Entry ε}
  {s s' : Supplied σ} {user : Int}

theorem enter_get_of_peek {c : Configuration} (h : s.records.peek user = some c) :
    enter load (.get user) s = (⟨.get user, [], .ok (.record c)⟩, s) := by
  rw [enter, perform_get_of_peek (s := s.tally) h]
  rfl

theorem enter_get_of_peek_none (h : s.records.peek user = none) :
    enter load (.get user) s =
      match load user s.source with
      | .ok c source =>
          (⟨.get user, [⟨user, .ok c⟩], .ok (.record c)⟩, ⟨s.records.keep user c, source⟩)
      | .error e source =>
          (⟨.get user, [⟨user, .error e⟩], .error e⟩, { s with source }) := by
  rw [enter, perform_get_of_peek_none (s := s.tally) h, tally, tallied]
  cases load user s.source <;> rfl

/-- The loads are written down beside the source: a request goes as it would without. -/
theorem perform_eq_enter (r : Request) (s : Supplied σ) :
    perform load r s =
      match (enter load r s).1.ended with
      | .ok a => .ok a (enter load r s).2
      | .error e => .error e (enter load r s).2 := by
  cases r with
  | get user =>
      cases hpeek : s.records.peek user with
      | some c => rw [perform_get_of_peek hpeek, enter_get_of_peek hpeek]
      | none =>
          rw [perform_get_of_peek_none hpeek, enter_get_of_peek_none hpeek]
          cases load user s.source <;> rfl
  | _ => rfl

theorem Holds.unfiled (h : Holds history s) (hfiled : entry.filed = [])
    (hrecords : s'.records = s.records) : Holds (history ++ [entry]) s' := by
  intro user
  rw [hrecords, h user, lastFiled_snoc_of_nil hfiled]

theorem Holds.filed (h : Holds history s) {other : Int} {c : Configuration}
    (hfiled : entry.filed = [(other, c)]) (hrecords : s'.records = s.records.keep other c) :
    Holds (history ++ [entry]) s' := by
  intro user
  rw [hrecords, Records.peek_keep, h user, lastFiled_snoc hfiled]

/-- The users known are those under whom something was filed. -/
theorem Holds.mem_users (h : Holds history s) :
    user ∈ s.records.users ↔ ∃ c, (user, c) ∈ history.flatMap Entry.filed := by
  rw [Records.users, Keyed.mem_keys_iff, Option.isSome_iff_ne_none]
  show s.records.peek user ≠ none ↔ _
  rw [h user, Ne, lastFiled_eq_none_iff, Classical.not_forall_not]

/-- **A request** follows from the history, and leaves what was filed last. -/
theorem Holds.enter (h : Holds history s) (r : Request) :
    Follows history (enter load r s).1 ∧
      Holds (history ++ [(enter load r s).1]) (enter load r s).2 := by
  cases r with
  | get user =>
      cases hpeek : s.records.peek user with
      | some c =>
          rw [enter_get_of_peek hpeek]
          exact ⟨.found (by rw [← h user, hpeek]), h.unfiled rfl rfl⟩
      | none =>
          have hnew : lastFiled history user = none := by rw [← h user, hpeek]
          rw [enter_get_of_peek_none hpeek]
          cases load user s.source with
          | ok c source => exact ⟨.supplied hnew c, h.filed rfl rfl⟩
          | error e source => exact ⟨.refused hnew e, h.unfiled rfl rfl⟩
  | peek user =>
      refine ⟨?_, h.unfiled rfl rfl⟩
      show Follows history ⟨_, _, .ok (.known (s.records.peek user))⟩
      rw [h user]
      exact .peeked user
  | replace c =>
      refine ⟨?_, h.filed rfl rfl⟩
      show Follows history ⟨_, _, .ok (.known (s.records.peek c.user))⟩
      rw [h c.user]
      exact .replaced c
  | users => exact ⟨.listed (Keyed.keys_ascending _) fun _ => h.mem_users, h.unfiled rfl rfl⟩

/-- Only a `get` leads to a load, and only for a user under whom nothing was filed. -/
theorem Follows.new {l : Load ε} (h : Follows history entry) (hl : l ∈ entry.loads) :
    entry.request = .get l.user ∧ lastFiled history l.user = none := by
  cases h with
  | supplied hnew c =>
      obtain rfl := List.mem_singleton.mp hl
      exact ⟨rfl, hnew⟩
  | refused hnew e =>
      obtain rfl := List.mem_singleton.mp hl
      exact ⟨rfl, hnew⟩
  | _ => cases hl

end Step

/-! ### All requests -/

/-- The last entry of a history is where a split divides it, or comes after. -/
theorem split_snoc {history before after : List (Entry ε)} {last entry : Entry ε}
    (h : history ++ [last] = before ++ entry :: after) :
    (before = history ∧ entry = last) ∨ ∃ rest, history = before ++ entry :: rest := by
  rcases List.eq_nil_or_concat after with rfl | ⟨rest, x, rfl⟩
  · obtain ⟨rfl, hlast⟩ := List.append_inj' h rfl
    exact .inl ⟨rfl, (List.cons.inj hlast).1.symm⟩
  · have hsplit : history ++ [last] = (before ++ entry :: rest) ++ [x] := by
      rw [h, List.append_assoc, List.cons_append, List.concat_eq_append]
    exact .inr ⟨rest, (List.append_inj' hsplit rfl).1⟩

section Runs

variable {load : Int → EStateM ε σ Configuration} {history : List (Entry ε)} {s : Supplied σ}

theorem Reaches.holds (h : Reaches load history s) : Holds history s := by
  induction h with
  | start source => exact fun _ => rfl
  | perform _ r ih => exact (ih.enter r).2
  | outside _ source ih => exact ih

/-- Every entry follows from those before it. -/
theorem Reaches.follows (h : Reaches load history s) {before after : List (Entry ε)}
    {entry : Entry ε} (hsplit : history = before ++ entry :: after) : Follows before entry := by
  induction h generalizing after with
  | start source => simp at hsplit
  | perform h r ih =>
      rcases split_snoc hsplit with ⟨rfl, rfl⟩ | ⟨rest, hrest⟩
      · exact (h.holds.enter r).1
      · exact ih hrest
  | outside _ source ih => exact ih hsplit

/-- Nothing but a `get` leads to a load, and it loads the user that it asks for. -/
theorem Reaches.request_of_mem (h : Reaches load history s) {entry : Entry ε}
    (hentry : entry ∈ history) {l : Load ε} (hl : l ∈ entry.loads) :
    entry.request = .get l.user := by
  obtain ⟨before, after, hsplit⟩ := List.append_of_mem hentry
  exact ((h.follows hsplit).new hl).1

/-- Once something was filed under a user, the source is not asked about that user again. -/
theorem Reaches.pairwise (h : Reaches load history s) :
    history.Pairwise fun earlier later =>
      ∀ l ∈ later.loads, ∀ c, (l.user, c) ∉ earlier.filed := by
  induction h with
  | start source => exact .nil
  | perform h r ih =>
      refine List.pairwise_append.mpr ⟨ih, List.pairwise_singleton _ _, ?_⟩
      intro earlier hearlier later hlater l hl c hc
      obtain rfl := List.mem_singleton.mp hlater
      have hnew := ((h.holds.enter r).1.new hl).2
      exact lastFiled_eq_none_iff.mp hnew c (List.mem_flatMap.mpr ⟨earlier, hearlier, hc⟩)
  | outside _ source ih => exact ih

/-- No user is loaded twice. -/
theorem Reaches.nodup (h : Reaches load history s) :
    ((history.flatMap Entry.loaded).map Prod.fst).Nodup := by
  rw [List.Nodup, List.pairwise_map, List.pairwise_flatMap]
  refine ⟨fun entry hentry => ?_, h.pairwise.imp fun {earlier later} hnew x hx y hy heq => ?_⟩
  -- A single request loads one record at most.
  · obtain ⟨before, after, hsplit⟩ := List.append_of_mem hentry
    cases h.follows hsplit <;> simp [Entry.loaded, Except.toOption]
  -- Of two requests, what the earlier one loaded it also filed.
  · obtain ⟨l, hl, hy⟩ := List.mem_filterMap.mp hy
    obtain ⟨c, -, rfl⟩ := Option.map_eq_some_iff.mp hy
    obtain ⟨_, held⟩ := x
    obtain rfl : _ = l.user := heq
    exact hnew l hl held (List.mem_append_left _ hx)

/-- **Records are loaded once**, whatever the source does, whenever it fails, and whomever its
records name.

Every request in a history goes as those before it require. A `get` is answered with what was filed
last under its user; only where nothing was filed is the source asked, once, and its record is
answered and filed, or its failure is passed on and nothing is filed. A `peek` answers what was
filed last, a replacement is answered with what it takes the place of, and nothing but a `get` leads
to a load. So a user under whom anything was filed, by a load or by a replacement, is never asked
about again, no user is loaded twice, and what is known in the end is what was filed last, under
exactly those users. A request that fails leaves the records as they were. -/
theorem loaded_once (h : Reaches load history s) :
    (∀ before entry after, history = before ++ entry :: after → Follows before entry) ∧
    (∀ entry ∈ history, ∀ l ∈ entry.loads, entry.request = .get l.user) ∧
    (history.Pairwise fun earlier later =>
      ∀ l ∈ later.loads, ∀ c, (l.user, c) ∉ earlier.filed) ∧
    ((history.flatMap Entry.loaded).map Prod.fst).Nodup ∧
    (∀ user, s.records.peek user = lastFiled history user) ∧
    s.records.users.Pairwise (· < ·) ∧
    (∀ user, user ∈ s.records.users ↔ ∃ c, (user, c) ∈ history.flatMap Entry.filed) ∧
    ∀ r, (perform load r s =
        match (enter load r s).1.ended with
        | .ok a => .ok a (enter load r s).2
        | .error e => .error e (enter load r s).2) ∧
      ∀ e s', perform load r s = .error e s' → s'.records = s.records :=
  ⟨fun _ _ _ => h.follows, fun _ hentry _ => h.request_of_mem hentry, h.pairwise, h.nodup, h.holds,
    Keyed.keys_ascending _, fun _ => h.holds.mem_users,
    fun r => ⟨perform_eq_enter r s, fun _ _ => records_of_error⟩⟩

end Runs

/-- The source knows nothing of user 5, and what it has for user 1 names user 2. That record is kept
under user 1 and not under user 2, until a record that names user 1 takes its place, which is not
loaded over. -/
theorem loaded_once_misnamed :
    let two : Configuration := ⟨2, true, true, false, true, false⟩
    let one : Configuration := ⟨1, false, true, true, true, false⟩
    let archive : Archive := ⟨[(1, two)]⟩
    ∃ history s, Reaches archive.load history s ∧
      history.map (·.request) = [.get 5, .get 1, .peek 2, .replace one, .get 1, .users] ∧
      history.map (·.ended) =
        [.error (.noRecord 5), .ok (.record two), .ok (.known none), .ok (.known (some two)),
          .ok (.record one), .ok (.users [1])] ∧
      (history.flatMap Entry.loaded).map Prod.fst = [1] ∧
      s.records.peek 1 = some one ∧ s.records.peek 2 = none ∧ s.records.peek 5 = none := by
  intro two one archive
  have hstart : Reaches archive.load [] ⟨.empty, []⟩ := .start []
  have h := (((((hstart.perform (.get 5)).perform (.get 1)).perform (.peek 2)).perform
    (.replace one)).perform (.get 1)).perform .users
  obtain ⟨-, -, -, -, hknown, -⟩ := loaded_once h
  exact ⟨_, _, h, rfl, rfl, rfl, (hknown 1).trans (by decide),
    (hknown 2).trans (by decide), (hknown 5).trans (by decide)⟩

end ZoneArbiter.Supplied
