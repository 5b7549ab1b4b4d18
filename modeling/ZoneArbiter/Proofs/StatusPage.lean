import ZoneArbiter.Proofs.Refusal
import ZoneArbiter.Proofs.StatusPage.OneLine

/-!
# ZoneArbiter.Proofs.StatusPage — the status page, line by line

**A status page is a fixed list of lines, each at the depth of its level** (`line_by_line`), as long
as no other component adds to it. The arguments about layout and about effects are kept apart: what
is asked of the host for the page is one effect (`Arbiter.look`), and the page is laid out from its
answer and from what the arbiter remembers (`Arbiter.overview_eq`).

A line is split by a line feed in what it shows. The only values that can hold one are the zones
that are printed and not shown in quotes (`Memory.oneLine_statusLines`), and one that a user picks
is among them (`picked_zone_splits_line`).
-/

namespace ZoneArbiter

open Arbiter (Host ListenerId Memory Writing)
open Effect Text

/-! ### Pages -/

namespace Status

/-- Lines as text. Each stands as much deeper than the depth as its number says. -/
def laidOut (unit : String) (depth : Nat) : List (Nat × String) → String
  | [] => ""
  | (level, text) :: rest =>
      repeated (depth + level) unit ++ text ++ "\n" ++ laidOut unit depth rest

theorem laidOut_append (unit : String) (depth : Nat) (lines more : List (Nat × String)) :
    laidOut unit depth (lines ++ more) = laidOut unit depth lines ++ laidOut unit depth more := by
  induction lines with
  | nil => simp [laidOut]
  | cons line rest ih => simp [laidOut, ih, String.append_assoc]

/-- The lines, one level deeper. -/
def deeper (lines : List (Nat × String)) : List (Nat × String) :=
  lines.map fun line => (line.1 + 1, line.2)

theorem laidOut_deeper (unit : String) (depth : Nat) (lines : List (Nat × String)) :
    laidOut unit depth (deeper lines) = laidOut unit (depth + 1) lines := by
  induction lines with
  | nil => rfl
  | cons line rest ih =>
      obtain ⟨level, text⟩ := line
      show repeated (depth + (level + 1)) unit ++ text ++ "\n" ++
        laidOut unit depth (deeper rest) = _
      rw [ih, show depth + (level + 1) = depth + 1 + level by omega]
      rfl

theorem oneLine_repeated {unit : String} (hunit : OneLine unit) (count : Nat) :
    OneLine (repeated count unit) := by
  induction count with
  | zero => exact (by decide : OneLine "")
  | succ count ih => exact oneLine_append.mpr ⟨hunit, ih⟩

/-- A text ends as many lines as it was written in, and one more for every line feed in what was
written. -/
theorem count_laidOut {unit : String} (hunit : OneLine unit) (depth : Nat)
    (lines : List (Nat × String)) :
    (laidOut unit depth lines).toList.count '\n' =
      lines.length + (lines.flatMap fun line => line.2.toList).count '\n' := by
  induction lines with
  | nil => rfl
  | cons line rest ih =>
      obtain ⟨level, text⟩ := line
      have hindent : (repeated (depth + level) unit).toList.count '\n' = 0 :=
        List.count_eq_zero_of_not_mem (oneLine_repeated hunit _)
      have hend : "\n".toList.count '\n' = 1 := by decide
      simp only [laidOut, String.toList_append, List.count_append, List.length_cons,
        List.flatMap_cons]
      omega

/-- So lines are counted by line feeds exactly if nothing that was written holds one. -/
theorem count_laidOut_eq_length_iff {unit : String} (hunit : OneLine unit) (depth : Nat)
    (lines : List (Nat × String)) :
    (laidOut unit depth lines).toList.count '\n' = lines.length ↔
      ∀ line ∈ lines, OneLine line.2 := by
  rw [count_laidOut hunit, Nat.add_eq_left, List.count_eq_zero]
  simp [OneLine]

namespace Page

/-- The page with lines added to it. -/
def written (page : Page) (lines : List (Nat × String)) : Page :=
  { page with text := page.text ++ laidOut page.unit page.depth lines }

theorem text_written_blank (lines : List (Nat × String)) :
    (written {} lines).text = laidOut "  " 0 lines := by
  simp [written]

theorem written_written (page : Page) (lines more : List (Nat × String)) :
    (page.written lines).written more = page.written (lines ++ more) := by
  simp [written, laidOut_append, String.append_assoc]

/-- A line on a page is written at the depth of the page. -/
theorem line_eq_written (page : Page) (text : String) :
    page.line text = page.written [(0, text)] := by
  simp [line, written, laidOut]

theorem lines_eq_written (page : Page) (texts : List String) :
    page.lines texts = page.written (texts.map fun text => (0, text)) := by
  induction texts generalizing page with
  | nil => simp [lines, written, laidOut]
  | cons text rest ih =>
      show (page.line text).lines rest = _
      rw [ih, line_eq_written, written_written]
      rfl

/-- What is written one level deeper. -/
theorem written_indent (page : Page) (lines : List (Nat × String)) :
    page.indent.written lines = (page.written (deeper lines)).indent := by
  simp [written, indent, laidOut_deeper]

end Page

end Status

open Status

/-- The lines on the telephony slots, by ascending slot, or one that says that there are none. -/
def Telephony.Table.slotLines (t : Telephony.Table) : List String :=
  if t.bySlot.entries.isEmpty then ["(none)"] else t.bySlot.entries.map statusLine

/-- The line on the geolocation suggestion, or on there being none. -/
def Geolocation.statusLine : Option GeoSuggestion → String
  | none => "Geolocation suggestion: (none)"
  | some s => "Geolocation suggestion: zone_ids=" ++
      shownOption GeoSuggestion.shownZones s.zones ++ " debug_info=" ++
      shownList (s.debug.map quoted)

/-- The lines of the status page, without what other components add to it. -/
def Arbiter.Memory.statusLines (m : Memory) (c : Configuration) (initialized : Bool)
    (zone : Option String) : List (Nat × String) :=
  [(0, "TimeZoneDetectorStrategy:")] ++
    (overviewOfUser m.records.users c).map (fun line => (1, line)) ++
    [(1, "device_time_zone_initialized=" ++ shownBool initialized),
      (1, "device_time_zone=" ++ printedText zone),
      (1, "Time zone change log:")] ++
    m.changes.entries.map (fun change => (2, change.statusLine)) ++
    [(1, "Telephony suggestions:")] ++
    m.telephony.slotLines.map (fun line => (2, line)) ++
    [(1, Geolocation.statusLine m.geolocation)]

/-- The change log takes its heading and a line for every entry. -/
theorem writeChanges_eq (changes : ChangeLog) (page : Page) :
    Arbiter.writeChanges changes page =
      page.written ((0, "Time zone change log:") ::
        changes.entries.map fun change => (1, change.statusLine)) := by
  rw [Arbiter.writeChanges, Page.lines_eq_written, Page.written_indent, Page.dedent_indent,
    Page.line_eq_written, Page.written_written]
  simp [deeper]
  rfl

/-- The table takes its heading and a line for every slot, or one that says there is none. -/
theorem Telephony.Table.writeStatus_eq (t : Telephony.Table) (page : Page) :
    t.writeStatus page =
      page.written ((0, "Telephony suggestions:") :: t.slotLines.map fun line => (1, line)) := by
  have hbody (page : Page) :
      (if t.bySlot.entries.isEmpty then page.line "(none)" else page).lines
        (t.bySlot.entries.map statusLine) = page.lines t.slotLines := by
    unfold slotLines
    cases t.bySlot.entries <;> rfl
  rw [writeStatus, hbody, Page.lines_eq_written, Page.written_indent, Page.dedent_indent,
    Page.line_eq_written, Page.written_written]
  simp [deeper]
  rfl

/-- The geolocation suggestion takes one line, be there one or not. -/
theorem Geolocation.writeStatus_eq (latest : Option GeoSuggestion) (page : Page) :
    Geolocation.writeStatus latest page = page.written [(0, statusLine latest)] := by
  cases latest <;> exact page.line_eq_written _

/-- A page as it is written once everything was asked. -/
theorem Arbiter.written_statusLines (page : Page) (m : Memory) (c : Configuration)
    (initialized : Bool) (zone : Option String) :
    (Geolocation.writeStatus m.geolocation (m.telephony.writeStatus (writeChanges m.changes
      ((((page.line "TimeZoneDetectorStrategy:").indent.lines
          (overviewOfUser m.records.users c)).line
        ("device_time_zone_initialized=" ++ shownBool initialized)).line
        ("device_time_zone=" ++ printedText zone))))).dedent =
      page.written (m.statusLines c initialized zone) := by
  rw [Geolocation.writeStatus_eq, Telephony.Table.writeStatus_eq, writeChanges_eq,
    Page.line_eq_written, Page.line_eq_written, Page.line_eq_written, Page.lines_eq_written]
  simp only [Page.written_written, Page.written_indent, Page.dedent_indent]
  simp [Memory.statusLines, deeper, Function.comp_def]

/-! ### How many lines there are, and which are split -/

theorem Telephony.Table.length_slotLines (t : Telephony.Table) :
    t.slotLines.length = max 1 t.bySlot.entries.length := by
  unfold slotLines
  cases t.bySlot.entries with
  | nil => rfl
  | cons entry rest => simp

theorem Telephony.Table.oneLine_slotLines (t : Telephony.Table) :
    ∀ line ∈ t.slotLines, OneLine line := by
  unfold slotLines
  split
  · rw [List.forall_mem_singleton]
    decide
  · rw [List.forall_mem_map]
    exact fun entry _ => oneLine_statusLine entry

theorem Geolocation.oneLine_statusLine (latest : Option GeoSuggestion) :
    OneLine (statusLine latest) := by
  cases latest with
  | none => decide
  | some s =>
      show OneLine (_ ++ shownOption GeoSuggestion.shownZones s.zones ++ _ ++
        shownList (s.debug.map quoted))
      simp only [oneLine_append]
      exact ⟨⟨⟨by decide, oneLine_shownOption GeoSuggestion.oneLine_shownZones _⟩,
        by decide⟩, oneLine_shownList oneLine_of_mem_map_quoted⟩

namespace Arbiter.Memory

variable (m : Memory) (c : Configuration) (initialized : Bool) (zone : Option String)

/-- Eleven lines, the change log, and the slots or that there are none. -/
theorem length_statusLines :
    (m.statusLines c initialized zone).length =
      11 + m.changes.entries.length + max 1 m.telephony.bySlot.entries.length := by
  simp only [statusLines, overviewOfUser, List.length_cons, List.length_map, List.length_append,
    List.length_nil, m.telephony.length_slotLines]
  omega

/-- **No line is split** exactly if none of the zones that are printed is: that of the device, and
those in the change log. -/
theorem oneLine_statusLines :
    (∀ line ∈ m.statusLines c initialized zone, OneLine line.2) ↔
      (∀ text ∈ zone, OneLine text) ∧ ∀ change ∈ m.changes.entries,
        OneLine change.zone ∧ ∀ previous ∈ change.previous, OneLine previous := by
  have huser : ∀ line ∈ overviewOfUser m.records.users c, OneLine line := oneLine_overviewOfUser
  have hslots := m.telephony.oneLine_slotLines
  have hgeo := Geolocation.oneLine_statusLine m.geolocation
  have hheader : OneLine "TimeZoneDetectorStrategy:" := by decide
  have hinitialized : OneLine "device_time_zone_initialized=" := by decide
  have hzone : OneLine "device_time_zone=" := by decide
  have hlog : OneLine "Time zone change log:" := by decide
  have htelephony : OneLine "Telephony suggestions:" := by decide
  simp only [statusLines, List.forall_mem_append, List.forall_mem_cons, List.forall_mem_map,
    List.not_mem_nil, false_implies, implies_true, oneLine_append, oneLine_printedText,
    oneLine_shownBool, ZoneChange.oneLine_statusLine, hgeo, hheader, hinitialized, hzone, hlog,
    htelephony, true_and, and_true]
  constructor
  · rintro ⟨⟨⟨-, hread⟩, hchanges⟩, -⟩
    exact ⟨hread, hchanges⟩
  · rintro ⟨hread, hchanges⟩
    exact ⟨⟨⟨huser, hread⟩, hchanges⟩, hslots⟩

end Arbiter.Memory

/-! ### What is asked for the page -/

/-- What the host is asked for the status page. -/
def Arbiter.look {ω : Type} (a : Arbiter ω) : Effect ω (Configuration × Bool × Option String) := do
  let c ← a.currentRecord
  let initialized ← a.host.zoneInitialized
  let zone ← a.currentZone
  return (c, initialized, zone)

section Writing

variable {ω α β : Type} {a : Arbiter ω} {e : Effect ω α} {f : α → Writing ω β} {s s' : System ω}
  (page : Page)

theorem Arbiter.Writing.act_of_ok {x : α} (h : e s = .ok x s') :
    (Writing.act e >>= f) (s, page) = f x (s', page) := by
  show EStateM.bind (Writing.act e) f (s, page) = _
  rw [EStateM.bind, Writing.act, h]

theorem Arbiter.Writing.act_of_error {fault : Fault} (h : e s = .error fault s') :
    (Writing.act e >>= f) (s, page) = .error fault (s', page) := by
  show EStateM.bind (Writing.act e) f (s, page) = _
  rw [EStateM.bind, Writing.act, h]

theorem Arbiter.Writing.put_bind (g : Page → Page) (f : Unit → Writing ω β) :
    (Writing.put g >>= f) (s, page) = f () (s, g page) := rfl

/-- Reading the zone leaves the memory alone. -/
theorem Arbiter.Discreet.memory_of_currentZone (hdiscreet : a.Discreet) {zone : Option String}
    (h : a.currentZone s = .ok zone s') : s'.memory = s.memory := by
  obtain ⟨initialized, s₁, hinitialized, h⟩ := ok_of_bind h
  rw [← hdiscreet.zoneInitialized hinitialized]
  split at h
  · exact hdiscreet.deviceZone h
  · obtain ⟨-, rfl⟩ := EStateM.Result.ok.inj h
    rfl

/-- Loading the current user's record leaves all but the records alone. -/
theorem Arbiter.Discreet.memory_of_currentRecord (hdiscreet : a.Discreet) {c : Configuration}
    (h : a.currentRecord s = .ok c s') :
    s'.memory = { s.memory with records := s'.memory.records } := by
  obtain ⟨user, s₁, huser, h⟩ := ok_of_bind h
  rw [← hdiscreet.currentUser huser]
  exact (hdiscreet.memory_of_recordOf h).1

/-- **The page is laid out from what was asked and what is remembered**, and cut short only if the
host fails. -/
theorem Arbiter.Discreet.overview_eq (hdiscreet : a.Discreet) (args : List String)
    (hplain : s.memory.appendices = []) :
    match a.look s with
    | .ok (c, initialized, zone) s' => a.overview args page s =
        .ok (page.written (s'.memory.statusLines c initialized zone), none) s'
    | .error fault s' => ∃ page', a.overview args page s = .ok (page', some fault) s' := by
  unfold overview writeStatus
  cases hrecord : a.currentRecord s with
  | error fault s₁ =>
      rw [look, bind_of_error hrecord]
      exact ⟨page, by rw [Writing.act_of_error page hrecord]⟩
  | ok c s₁ =>
      have hrecords : s₁.memory = { s.memory with records := s₁.memory.records } :=
        hdiscreet.memory_of_currentRecord hrecord
      rw [look, bind_of_ok hrecord, Writing.act_of_ok page hrecord,
        Writing.act_of_ok page (show memory s₁ = .ok s₁.memory s₁ from rfl), Writing.put_bind]
      cases hinitialized : a.host.zoneInitialized s₁ with
      | error fault s₂ =>
          rw [bind_of_error hinitialized]
          exact ⟨_, by rw [Writing.act_of_error _ hinitialized]⟩
      | ok initialized s₂ =>
          rw [bind_of_ok hinitialized, Writing.act_of_ok _ hinitialized, Writing.put_bind]
          cases hzone : a.currentZone s₂ with
          | error fault s₃ =>
              rw [bind_of_error hzone]
              exact ⟨_, by rw [Writing.act_of_error _ hzone]⟩
          | ok zone s₃ =>
              have hmemory : s₃.memory = s₁.memory :=
                (hdiscreet.memory_of_currentZone hzone).trans
                  (hdiscreet.zoneInitialized hinitialized)
              have hplain₃ : s₃.memory.appendices = [] := by rw [hmemory, hrecords, hplain]
              rw [bind_of_ok hzone, Writing.act_of_ok _ hzone, Writing.put_bind,
                Writing.act_of_ok _ (show memory s₃ = .ok s₃.memory s₃ from rfl), hplain₃]
              simp only [Writing.put_bind]
              rw [← hmemory]
              show EStateM.Result.ok (_, none) s₃ = _
              rw [← written_statusLines]

end Writing

/-! ### What is written down of it -/

/-- The contact asks something of the host, which changes nothing by answering. -/
def Contact.Looks : Contact → Prop
  | .currentUser _ | .configurationOf .. | .zoneInitialized _ | .deviceZone _ => True
  | _ => False

/-- The contact is a call of the host that failed in this way. -/
def Contact.FailedWith (fault : Fault) : Contact → Prop
  | .currentUser ended => ended = .error fault
  | .configurationOf _ ended => ended = .error fault
  | .zoneInitialized ended => ended = .error fault
  | .deviceZone ended => ended = .error fault
  | .setDeviceZone _ ended => ended = .error fault
  | .storeConfiguration _ _ ended => ended = .error fault
  | .finishStore ended => ended = .error fault
  | .readClock ended => ended = .error fault
  | .listener _ | .asked _ => False

section Look

variable {ω α : Type} {host : Host ω} {tell : ListenerId → Effect (Transcribed ω) Unit}
  {s s₁ : System (Transcribed ω)} {looks : List Contact}

/-- What led from one system to the other only looked at the host, and loaded records. -/
structure Glimpse (s s' : System (Transcribed ω)) (looks : List Contact) : Prop where
  contacts : s'.host.contacts = s.host.contacts ++ looks
  looks : ∀ contact ∈ looks, contact.Looks
  memory : s'.memory = { s.memory with records := s'.memory.records }

/-- It did so until the host failed. -/
def CutShort (s : System (Transcribed ω)) (fault : Fault) (s' : System (Transcribed ω)) : Prop :=
  ∃ looks, Glimpse s s' looks ∧ ∃ contact ∈ looks, contact.FailedWith fault

theorem Glimpse.refl (s : System (Transcribed ω)) : Glimpse s s [] := ⟨by simp, by simp, rfl⟩

/-- One more look. -/
theorem Glimpse.call (h : Glimpse s s₁ looks) (call : EStateM Fault ω α)
    (contact : Except Fault α → Contact) (hlooks : ∀ ended, (contact ended).Looks)
    (hfails : ∀ fault, (contact (.error fault)).FailedWith fault) :
    (Transcribed.call call contact).Ends s₁
      (fun x s' => Glimpse s s' (looks ++ [contact (.ok x)]) ∧ s'.memory = s₁.memory)
      (CutShort s) := by
  have hnext (ended : Except Fault α) (world : ω) :
      Glimpse s ((s₁.onWorld world).jot (contact ended)) (looks ++ [contact ended]) :=
    ⟨by rw [← List.append_assoc, ← h.contacts]; rfl,
      List.forall_mem_append.mpr ⟨h.looks, by simpa using hlooks ended⟩, h.memory⟩
  rw [Ends, call_eq]
  cases call s₁.host.world with
  | ok x world => exact ⟨hnext (.ok x) world, rfl⟩
  | error fault world => exact ⟨_, hnext (.error fault) world, _, by simp, hfails fault⟩

/-- The record of a user was at hand, or was loaded from the host. -/
def LoadsRecord (user : Int) (c : Configuration) (s s' : System (Transcribed ω))
    (looks : List Contact) : Prop :=
  s'.memory.records.peek user = some c ∧
    (s'.memory.records = s.memory.records ∨
      s.memory.records.peek user = none ∧ .configurationOf user (.ok c) ∈ looks ∧
        s'.memory.records = s.memory.records.keep user c)

theorem Glimpse.recordOf (h : Glimpse s s₁ looks) (hsame : s₁.memory = s.memory) (user : Int) :
    ((Arbiter.transcribed host tell).recordOf user).Ends s₁
      (fun c s' => ∃ more, Glimpse s s' (looks ++ more) ∧ LoadsRecord user c s s' (looks ++ more))
      (CutShort s) := by
  cases hknown : s₁.memory.records.peek user with
  | some c =>
      refine Ends.of_ok (Arbiter.recordOf_of_peek hknown) ⟨[], ?_, ?_⟩
      · rw [List.append_nil]
        exact h
      · exact ⟨hknown, .inl (by rw [hsame])⟩
  | none =>
      refine Ends.of_eq (Arbiter.recordOf_of_peek_none hknown) ?_
      refine (h.call (host.configurationOf user) (.configurationOf user) (fun _ => trivial)
        fun _ => rfl).bind ?_
      rintro c s' ⟨hglimpse, hmemory⟩
      refine Ends.remember (Ends.pure ⟨[.configurationOf user (.ok c)], ?_, ?_⟩)
      · exact ⟨hglimpse.contacts, hglimpse.looks, by rw [hmemory, hsame]⟩
      · refine ⟨by simp [Records.peek_keep], .inr ⟨?_, by simp, ?_⟩⟩
        · rw [← hsame, hknown]
        · show s'.memory.records.keep user c = _
          rw [hmemory, hsame]

/-- The zone that was read, or none from a device that has no zone. -/
def ReadsZone (zone : Option String) (looks : List Contact) : Prop :=
  .deviceZone (.ok zone) ∈ looks ∨ zone = none ∧ .zoneInitialized (.ok false) ∈ looks

/-- The zone that a page shows is the one that was read for it. -/
theorem Glimpse.currentZone (h : Glimpse s s₁ looks) :
    (Arbiter.transcribed host tell).currentZone.Ends s₁
      (fun zone s' => ∃ more, Glimpse s s' (looks ++ more) ∧ s'.memory = s₁.memory ∧
        ReadsZone zone (looks ++ more))
      (CutShort s) := by
  refine (h.call host.zoneInitialized .zoneInitialized (fun _ => trivial) fun _ => rfl).bind ?_
  rintro initialized s₂ ⟨hasked, hsame⟩
  cases initialized with
  | false =>
      exact Ends.pure ⟨[.zoneInitialized (.ok false)], hasked, hsame, .inr ⟨rfl, by simp⟩⟩
  | true =>
      refine (hasked.call host.deviceZone .deviceZone (fun _ => trivial) fun _ => rfl).mono
        (fun zone s' hend => ?_) fun _ _ hcut => hcut
      rw [List.append_assoc] at hend
      exact ⟨_, hend.1, hend.2.trans hsame, .inl (by simp)⟩

/-- **What is written down of a status page**: it names the current user's record, whether the
device has a zone, and its zone, all as the host answered. -/
theorem glimpse_look (host : Host ω) (tell : ListenerId → Effect (Transcribed ω) Unit)
    (s : System (Transcribed ω)) :
    (Arbiter.transcribed host tell).look.Ends s
      (fun (c, initialized, zone) s' => ∃ user looks, Glimpse s s' looks ∧
        .currentUser (.ok user) ∈ looks ∧ LoadsRecord user c s s' looks ∧
        .zoneInitialized (.ok initialized) ∈ looks ∧ ReadsZone zone looks)
      (CutShort s) := by
  unfold Arbiter.look Arbiter.currentRecord
  rw [bind_assoc]
  refine ((Glimpse.refl s).call host.currentUser .currentUser (fun _ => trivial)
    fun _ => rfl).bind ?_
  rintro user s₁ ⟨huser, hsame⟩
  refine (huser.recordOf hsame user).bind ?_
  rintro c s₂ ⟨loads, hloaded, hpeek, hrecords⟩
  refine (hloaded.call host.zoneInitialized .zoneInitialized (fun _ => trivial)
    fun _ => rfl).bind ?_
  rintro initialized s₃ ⟨hasked, hsame₃⟩
  refine hasked.currentZone.bind ?_
  rintro zone s' ⟨reads, hread, hsame', hreads⟩
  refine Ends.pure ⟨user, _, hread, by simp, ?_, by simp, hreads⟩
  rw [LoadsRecord, hsame', hsame₃]
  refine ⟨hpeek, hrecords.imp_right ?_⟩
  rintro ⟨hnew, hload, hkept⟩
  exact ⟨hnew, List.mem_append_left _ (List.mem_append_left _ hload), hkept⟩

/-- **The status page, line by line**, while no other component adds to it. It is cut short only if
the host fails. Otherwise its lines are laid out as `Memory.statusLines` has them, each at the depth
of its level, and the page is at the depth again at which it started. Only the record of the current
user may have been loaded for it, and nothing was done but asking the host.

No stored value can split a line, or add one, but the zones that are printed: the page has one line
feed for each of its lines exactly if the zone that the device answers with holds none, and neither
does a zone in the change log. -/
theorem line_by_line (host : Host ω) (tell : ListenerId → Effect (Transcribed ω) Unit)
    {s : System (Transcribed ω)} (hplain : s.memory.appendices = []) (args : List String)
    (page : Page) :
    ∃ page' fault? s', (Arbiter.transcribed host tell).overview args page s =
        .ok (page', fault?) s' ∧
      (∀ fault, fault? = some fault → CutShort s fault s') ∧
      (fault? = none → ∃ user c initialized zone looks,
        Glimpse s s' looks ∧ .currentUser (.ok user) ∈ looks ∧ LoadsRecord user c s s' looks ∧
        .zoneInitialized (.ok initialized) ∈ looks ∧ ReadsZone zone looks ∧
        let lines := s'.memory.statusLines c initialized zone
        page' = { page with text := page.text ++ laidOut page.unit page.depth lines } ∧
        lines.length = 11 + s.memory.changes.entries.length +
          max 1 s.memory.telephony.bySlot.entries.length ∧
        (OneLine page.unit →
          ((laidOut page.unit page.depth lines).toList.count '\n' = lines.length ↔
            (∀ text ∈ zone, OneLine text) ∧ ∀ change ∈ s.memory.changes.entries,
              OneLine change.zone ∧ ∀ previous ∈ change.previous, OneLine previous))) := by
  have hwritten := Arbiter.discreet_transcribed.overview_eq (a := .transcribed host tell) page args
    hplain
  obtain ⟨⟨c, initialized, zone⟩, s', hrun, hend⟩ | ⟨fault, s', hrun, hcut⟩ :=
    (glimpse_look host tell s).cases
  · rw [hrun] at hwritten
    obtain ⟨user, looks, hglimpse, huser, hloads, hinitialized, hreads⟩ := hend
    refine ⟨_, none, s', hwritten, by simp, fun _ => ⟨user, c, initialized, zone, looks, hglimpse,
      huser, hloads, hinitialized, hreads, rfl, ?_, fun hunit => ?_⟩⟩
    · rw [Memory.length_statusLines, hglimpse.memory]
    · rw [count_laidOut_eq_length_iff hunit, Memory.oneLine_statusLines, hglimpse.memory]
  · rw [hrun] at hwritten
    obtain ⟨page', hwritten⟩ := hwritten
    refine ⟨page', some fault, s', hwritten, ?_, by simp⟩
    rintro _ ⟨⟩
    exact hcut

end Look

open Session (World)

/-- User 1 has picked a zone whose name holds a line feed. -/
def Session.forged : System World :=
  Session.after 0 (Session.Setup.opening ⟨1, true, true, false, false, false⟩ none)
    [.manual 1 ⟨"Europe/Paris\n  forged"⟩]

/-- The name splits the line on the device's zone: the page has more lines than were written. -/
theorem picked_zone_splits_line :
    Session.forged.memory.appendices = [] ∧
    ∃ page s', (Session.arbiter 0).overview [] {} Session.forged = .ok (page, none) s' ∧
      page.text.toList.count '\n' ≠ 11 + Session.forged.memory.changes.entries.length +
        max 1 Session.forged.memory.telephony.bySlot.entries.length := by
  have hplain : Session.forged.memory.appendices = [] := rfl
  have hlook : (Session.arbiter 0).look Session.forged =
      .ok (⟨1, true, true, false, false, false⟩, true, some "Europe/Paris\n  forged")
        Session.forged := rfl
  have hwritten := Arbiter.discreet_on.overview_eq (a := Session.arbiter 0) {} [] hplain
  rw [hlook] at hwritten
  refine ⟨hplain, _, _, hwritten, fun hcount => ?_⟩
  have hlength := Session.forged.memory.length_statusLines ⟨1, true, true, false, false, false⟩ true
    (some "Europe/Paris\n  forged")
  rw [Page.text_written_blank, ← hlength, count_laidOut_eq_length_iff (by decide),
    Memory.oneLine_statusLines] at hcount
  exact absurd (hcount.1 _ rfl) (by decide)

/-- What is said of a page holds of this one: its text is not one line for each of its lines. -/
theorem line_by_line_forged :
    let s : System (Transcribed World) :=
      ⟨Session.forged.memory, ⟨Session.forged.host, []⟩⟩
    let a := Arbiter.transcribed World.host fun _ => pure ()
    s.memory.appendices = [] ∧
    ∃ page s' lines, a.overview [] {} s = .ok (page, none) s' ∧
      page = { text := laidOut "  " 0 lines } ∧ lines.length = 13 ∧
      (laidOut "  " 0 lines).toList.count '\n' ≠ 13 := by
  intro s a
  have hplain : s.memory.appendices = [] := rfl
  obtain ⟨page, fault?, s', hrun, -, hpage⟩ :=
    line_by_line World.host (fun _ => pure ()) hplain [] {}
  have hended : a.overview [] {} s = .ok (_, none) _ := rfl
  have hnone : fault? = none :=
    (Prod.mk.inj (EStateM.Result.ok.inj (hrun.symm.trans hended)).1).2
  obtain ⟨_, _, _, _, _, -, -, -, -, -, hlaidOut, hlength, hcount⟩ := hpage hnone
  rw [hnone] at hrun
  refine ⟨hplain, page, s', _, hrun, ?_, hlength, fun hlines => ?_⟩
  · simpa using hlaidOut
  · have hunsplit := (hcount (by decide)).mp (hlines.trans hlength.symm)
    have hentry : ⟨"Europe/Paris\n  forged", none, .manual 1, 0⟩ ∈ s.memory.changes.entries :=
      List.mem_singleton_self _
    exact absurd (hunsplit.2 _ hentry).1 (by decide)

end ZoneArbiter
