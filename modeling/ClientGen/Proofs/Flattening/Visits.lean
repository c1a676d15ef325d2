import ClientGen.Proofs.Flattening.History
import ClientGen.Proofs.Flattening.MethodOrder
import Mathlib.Order.Interval.Set.Basic

/-!
# The table of visits

A message is entered in the table of visits when its walk begins, with the number of records there
are, and its record is appended when its walk ends. So the table names the messages that are
finished and those on the stack (`Sound.accounted`). The records from that number up to a message's
own position are those of the messages first reached while its fields were being walked
(`Bracketed.finished`), so that these ranges are nested or disjoint, as in any walk in depth. A move
does one of three things to the table (`Shift`), and each of them keeps the invariant `Bracketed`.
-/

set_option autoImplicit false
set_option relaxedAutoImplicit false

namespace ClientGen

open Declaration Flattening

namespace Flattening

namespace State

/-- The names of the messages that own a flat name. -/
def visited (s : State) : List String :=
  s.visits.map Visit.name

/-- The names of the records of messages. -/
def finished (s : State) : List String :=
  s.messages.map Record.Message.name

/-- The names of the messages that are being walked, the topmost first. -/
def underway (s : State) : List String :=
  s.stack.map Frame.name

/-- The table of visits names the messages that are finished and those that are being walked, each
of them once, and none of them is both. -/
structure Accounted (s : State) : Prop where
  mem_visited : ∀ name, name ∈ s.visited ↔ name ∈ s.finished ∨ name ∈ s.underway
  nodup_visited : s.visited.Nodup
  nodup_finished : s.finished.Nodup
  nodup_underway : s.underway.Nodup
  disjoint : s.finished.Disjoint s.underway

end State

/-! ### What a move does to the table -/

/-- The walk of a message begins. The table gets a visit with the number of records there are. -/
structure Begins (s t : State) (visit : Visit) : Prop where
  fresh : visit.name ∉ s.visited
  index_eq : visit.index = s.finished.length
  visits_eq : t.visits = s.visits ++ [visit]
  finished_eq : t.finished = s.finished
  underway_eq : t.underway = visit.name :: s.underway

/-- What a move does to visits, records and stack: nothing, or a walk begins, or a walk ends. -/
inductive Shift (s t : State) : Prop
  | keep (visits_eq : t.visits = s.visits) (finished_eq : t.finished = s.finished)
      (underway_eq : t.underway = s.underway)
  | begins (visit : Visit) (h : Begins s t visit)
  | ends (name : String) (visits_eq : t.visits = s.visits)
      (finished_eq : t.finished = s.finished ++ [name])
      (underway_eq : s.underway = name :: t.underway)

section Moves

variable {c : Context} {service : Service} {s t : State}

theorem Naming.shift {type : NamedType} {around : Option String} {name : String}
    {frame : Option Frame} (h : Naming c s type around name frame t) :
    Shift s { t with stack := frame.toList ++ t.stack } := by
  cases h with
  | message _ hfree =>
    refine .begins ⟨_, _, s.messages.length⟩ ⟨?_, ?_, rfl, rfl, rfl⟩
    · have hunowned := State.visit?_eq_none_iff.mp hfree
      rwa [State.map_fst_messageOwners] at hunowned
    · rw [State.finished, List.length_map]
  | known => exact .keep rfl rfl rfl
  | sharedMessage => exact .keep rfl rfl rfl
  | enum => exact .keep rfl rfl rfl
  | sharedEnum => exact .keep rfl rfl rfl

theorem Targeting.shift {field : Field} {around : String} {target : Target}
    {frame : Option Frame} (h : Targeting c s field around target frame t) :
    Shift s { t with stack := frame.toList ++ t.stack } ∧ t.stack = s.stack := by
  cases h with
  | scalar => exact ⟨.keep rfl rfl rfl, rfl⟩
  | timestamp => exact ⟨.keep rfl rfl rfl, rfl⟩
  | named _ _ hnaming => exact ⟨hnaming.shift, hnaming.stack_eq⟩

theorem Advance.shift (h : Advance c s t) : Shift s t := by
  cases h with
  | @finish top rest hstack _ =>
    refine .ends top.name rfl ?_ ?_
    · simp [State.finished, Frame.record]
    · simp [State.underway, hstack]
  | @field top rest field subject pending target frame u hstack _ _ htargeting =>
    obtain ⟨hshift, hsame⟩ := htargeting.shift
    have hunderway : ({ u with stack := frame.toList ++ { top with
        done := top.done ++ [fieldRecord field (c.schema.entry? field) target]
        pending } :: rest } : State).underway =
        ({ u with stack := frame.toList ++ u.stack } : State).underway := by
      simp [State.underway, hsame, hstack]
    cases hshift with
    | keep hvisits hfinished hstill => exact .keep hvisits hfinished (hunderway.trans hstill)
    | begins visit hbegins =>
      exact .begins visit { hbegins with underway_eq := hunderway.trans hbegins.underway_eq }
    | ends name hvisits hfinished hended =>
      exact .ends name hvisits hfinished (hunderway ▸ hended)

theorem Move.shift (h : Move c service s t) : Shift s t := by
  cases h with
  | note => exact .keep rfl rfl rfl
  | call => exact .keep rfl rfl rfl
  | enter _ _ hnaming => exact hnaming.shift
  | advance hadvance => exact hadvance.shift

/-- The names of the table are those of the records and of the frames. -/
theorem Sound.accounted (h : Sound c service s) : s.Accounted := by
  have hperm : (s.finished ++ s.underway).Perm s.visited := h.recorded.names
  have hnodup : s.visited.Nodup := by
    have howners := h.tabled.messages.nodup
    rwa [State.map_fst_messageOwners] at howners
  obtain ⟨hfinished, hunderway, hdisjoint⟩ := List.nodup_append'.mp (hperm.nodup_iff.mpr hnodup)
  exact ⟨fun name ↦ by rw [← hperm.mem_iff, List.mem_append], hnodup, hfinished, hunderway,
    hdisjoint⟩

end Moves

namespace Begins

variable {s t : State} {visit other : Visit}

theorem visited_eq (h : Begins s t visit) : t.visited = s.visited ++ [visit.name] := by
  rw [State.visited, h.visits_eq, List.map_append]
  rfl

theorem not_mem_finished (h : Begins s t visit) (haccounted : s.Accounted) :
    visit.name ∉ s.finished :=
  fun hmem ↦ h.fresh ((haccounted.mem_visited _).mpr (.inl hmem))

theorem not_mem_underway (h : Begins s t visit) (haccounted : s.Accounted) :
    visit.name ∉ s.underway :=
  fun hmem ↦ h.fresh ((haccounted.mem_visited _).mpr (.inr hmem))

/-- Of the visits now, one is new, and any other name is that of an old visit. -/
theorem mem_of_name_ne (h : Begins s t visit) (hother : other ∈ t.visits)
    (hname : other.name ≠ visit.name) : other ∈ s.visits := by
  rw [h.visits_eq, List.mem_append, List.mem_singleton] at hother
  exact hother.resolve_right fun heq ↦ hname (heq ▸ rfl)

theorem eq_of_name_eq (h : Begins s t visit) (hother : other ∈ t.visits)
    (hname : other.name = visit.name) : other = visit := by
  rw [h.visits_eq, List.mem_append, List.mem_singleton] at hother
  refine hother.resolve_left fun hmem ↦ h.fresh ?_
  exact hname ▸ List.mem_map_of_mem hmem

end Begins

/-! ### Ranges of records -/

/-- In one of the steps between the points of a list, the latest first, the message named `inner`
is first reached, while the fields of the one named `outer` are being walked. -/
def ReachedDuring (outer inner : String) : List Point → Prop
  | q :: p :: past =>
    (inner ∉ p.state.visited ∧ inner ∈ q.state.visited ∧ outer ∈ p.state.underway) ∨
      ReachedDuring outer inner (p :: past)
  | _ => False

/-- What was reached during the walk of a message shows in the records. For a message that is
finished it stands between the index of its visit and its record, for one that is being walked it is
above on the stack or stands behind that index. -/
structure Bracketed (points : List Point) (s : State) : Prop where
  bounded : ∀ visit ∈ s.visits, visit.index ≤ s.finished.length
  visited : ∀ outer inner, ReachedDuring outer inner points → outer ∈ s.visited ∧ inner ∈ s.visited
  ordered : ∀ outer ∈ s.visits, ∀ inner ∈ s.visits, ReachedDuring outer.name inner.name points →
    outer.index ≤ inner.index
  finished : ∀ visit ∈ s.visits, ∀ before after, s.finished = before ++ visit.name :: after →
    visit.index ≤ before.length ∧
      ∀ inner, ReachedDuring visit.name inner points ↔ inner ∈ before.drop visit.index
  underway : ∀ visit ∈ s.visits, ∀ above below, s.underway = above ++ visit.name :: below →
    ∀ inner, ReachedDuring visit.name inner points ↔
      inner ∈ above ∨ inner ∈ s.finished.drop visit.index

namespace Bracketed

variable {p q : Point} {past : List Point}

theorem start {jobs : List Job} : Bracketed [⟨{}, jobs⟩] {} where
  bounded := by simp
  visited := fun _ _ h ↦ h.elim
  ordered := by simp
  finished := by simp
  underway := by simp

/-- A step that enters nothing in the table reaches nothing. -/
theorem reachedDuring_of_visits_eq (past : List Point) (hvisits : q.state.visits = p.state.visits)
    (outer inner : String) :
    ReachedDuring outer inner (q :: p :: past) ↔ ReachedDuring outer inner (p :: past) := by
  rw [ReachedDuring, State.visited, State.visited, hvisits]
  refine or_iff_right ?_
  rintro ⟨hfresh, hvisited, -⟩
  exact hfresh hvisited

theorem keep (h : Bracketed (p :: past) p.state) (hvisits : q.state.visits = p.state.visits)
    (hfinished : q.state.finished = p.state.finished)
    (hunderway : q.state.underway = p.state.underway) :
    Bracketed (q :: p :: past) q.state := by
  have hreached := reachedDuring_of_visits_eq past hvisits
  have hvisited : q.state.visited = p.state.visited := congrArg (List.map Visit.name) hvisits
  refine ⟨?_, ?_, ?_, ?_, ?_⟩
  · rw [hvisits, hfinished]
    exact h.bounded
  · simp only [hreached, hvisited]
    exact h.visited
  · simp only [hreached, hvisits]
    exact h.ordered
  · simp only [hreached, hvisits, hfinished]
    exact h.finished
  · simp only [hreached, hvisits, hfinished, hunderway]
    exact h.underway

/-- The end of a walk puts the message behind all that was reached during the walk. -/
theorem ends (h : Bracketed (p :: past) p.state) {name : String}
    (hvisits : q.state.visits = p.state.visits)
    (hfinished : q.state.finished = p.state.finished ++ [name])
    (hunderway : p.state.underway = name :: q.state.underway) :
    Bracketed (q :: p :: past) q.state := by
  have hreached := reachedDuring_of_visits_eq past hvisits
  have hvisited : q.state.visited = p.state.visited := congrArg (List.map Visit.name) hvisits
  refine ⟨?_, ?_, ?_, ?_, ?_⟩
  · intro visit hvisit
    rw [hvisits] at hvisit
    rw [hfinished, List.length_append]
    exact Nat.le_add_right_of_le (h.bounded visit hvisit)
  · simp only [hreached, hvisited]
    exact h.visited
  · simp only [hreached, hvisits]
    exact h.ordered
  · intro visit hvisit before after hsplit
    rw [hvisits] at hvisit
    simp only [hreached]
    rw [hfinished] at hsplit
    rcases List.eq_nil_or_concat after with rfl | ⟨rest, last, rfl⟩
    · -- The message itself: what was reached during its walk is all behind its index.
      obtain ⟨rfl, hlast⟩ := List.append_inj' hsplit rfl
      obtain rfl := List.singleton_inj.mp hlast
      refine ⟨h.bounded visit hvisit, fun inner ↦ ?_⟩
      simpa using h.underway visit hvisit [] q.state.underway hunderway inner
    · rw [List.concat_eq_append, ← List.cons_append, ← List.append_assoc] at hsplit
      exact h.finished visit hvisit before rest (List.append_inj' hsplit rfl).1
  · intro visit hvisit above below hsplit inner
    rw [hvisits] at hvisit
    have hbelow : p.state.underway = (name :: above) ++ visit.name :: below := by
      rw [hunderway, hsplit, List.cons_append]
    rw [hreached, h.underway visit hvisit _ _ hbelow inner, hfinished,
      List.drop_append_of_le_length (h.bounded visit hvisit), List.mem_cons, List.mem_append,
      List.mem_singleton]
    tauto

/-- The beginning of a walk reaches the message from all that are being walked. -/
theorem reachedDuring_of_begins (past : List Point) {visit : Visit}
    (hbegins : Begins p.state q.state visit) (outer inner : String) :
    ReachedDuring outer inner (q :: p :: past) ↔
      inner = visit.name ∧ outer ∈ p.state.underway ∨ ReachedDuring outer inner (p :: past) := by
  rw [ReachedDuring, hbegins.visited_eq, List.mem_append, List.mem_singleton]
  refine or_congr_left ⟨?_, ?_⟩
  · rintro ⟨hnew, hold | rfl, houter⟩
    · exact absurd hold hnew
    · exact ⟨rfl, houter⟩
  · rintro ⟨rfl, houter⟩
    exact ⟨hbegins.fresh, .inr rfl, houter⟩

/-- The beginning of a walk adds nothing to the records, and so nothing to what was reached during
the walks that have ended. -/
theorem finished_of_begins (h : Bracketed (p :: past) p.state) (haccounted : p.state.Accounted)
    {visit other : Visit} (hbegins : Begins p.state q.state visit)
    (hother : other ∈ q.state.visits) {before after : List String}
    (hsplit : q.state.finished = before ++ other.name :: after) :
    other.index ≤ before.length ∧ ∀ inner,
      ReachedDuring other.name inner (q :: p :: past) ↔ inner ∈ before.drop other.index := by
  rw [hbegins.finished_eq] at hsplit
  have hmem : other.name ∈ p.state.finished := by simp [hsplit]
  have hold : other ∈ p.state.visits := hbegins.mem_of_name_ne hother fun heq ↦
    hbegins.not_mem_finished haccounted (heq ▸ hmem)
  obtain ⟨hle, hbefore⟩ := h.finished other hold before after hsplit
  refine ⟨hle, fun inner ↦ ?_⟩
  rw [reachedDuring_of_begins past hbegins, ← hbefore]
  exact or_iff_right fun hunder ↦ haccounted.disjoint hmem hunder.2

/-- The beginning of a walk puts the message on top of those that are being walked, and nothing was
reached yet during it. -/
theorem underway_of_begins (h : Bracketed (p :: past) p.state) (haccounted : p.state.Accounted)
    {visit other : Visit} (hbegins : Begins p.state q.state visit)
    (hother : other ∈ q.state.visits) {above below : List String}
    (hsplit : q.state.underway = above ++ other.name :: below) (inner : String) :
    ReachedDuring other.name inner (q :: p :: past) ↔
      inner ∈ above ∨ inner ∈ q.state.finished.drop other.index := by
  rw [hbegins.underway_eq] at hsplit
  rw [reachedDuring_of_begins past hbegins, hbegins.finished_eq]
  cases above with
  | nil =>
    obtain ⟨hname, -⟩ := List.cons.inj hsplit
    obtain rfl := hbegins.eq_of_name_eq hother hname.symm
    rw [hbegins.index_eq, List.drop_length]
    refine ⟨?_, by simp⟩
    rintro (⟨-, hmem⟩ | hduring)
    · exact absurd hmem (hbegins.not_mem_underway haccounted)
    · exact absurd (h.visited _ _ hduring).1 hbegins.fresh
  | cons first above =>
    rw [List.cons_append, List.cons.injEq] at hsplit
    obtain ⟨rfl, hsplit⟩ := hsplit
    have hmem : other.name ∈ p.state.underway := by simp [hsplit]
    have hold : other ∈ p.state.visits := hbegins.mem_of_name_ne hother fun heq ↦
      hbegins.not_mem_underway haccounted (heq ▸ hmem)
    rw [h.underway other hold above below hsplit, List.mem_cons]
    tauto

theorem begins (h : Bracketed (p :: past) p.state) (haccounted : p.state.Accounted)
    {visit : Visit} (hbegins : Begins p.state q.state visit) :
    Bracketed (q :: p :: past) q.state := by
  have hreached := reachedDuring_of_begins past hbegins
  refine ⟨?_, ?_, ?_, fun other hother _ _ ↦ h.finished_of_begins haccounted hbegins hother,
    fun other hother _ _ ↦ h.underway_of_begins haccounted hbegins hother⟩
  · intro other hother
    rw [hbegins.finished_eq]
    by_cases hname : other.name = visit.name
    · rw [hbegins.eq_of_name_eq hother hname, hbegins.index_eq]
    · exact h.bounded other (hbegins.mem_of_name_ne hother hname)
  · intro outer inner hduring
    rw [hbegins.visited_eq]
    rcases (hreached outer inner).mp hduring with ⟨rfl, houter⟩ | hduring
    · refine ⟨List.mem_append_left _ ?_, List.mem_append_right _ (List.mem_singleton_self _)⟩
      exact (haccounted.mem_visited outer).mpr (.inr houter)
    · obtain ⟨houter, hinner⟩ := h.visited outer inner hduring
      exact ⟨List.mem_append_left _ houter, List.mem_append_left _ hinner⟩
  · intro outer houter inner hinner hduring
    rcases (hreached _ _).mp hduring with ⟨hname, hmem⟩ | hduring
    · rw [hbegins.eq_of_name_eq hinner hname, hbegins.index_eq]
      refine h.bounded outer (hbegins.mem_of_name_ne houter fun heq ↦ ?_)
      exact hbegins.not_mem_underway haccounted (heq ▸ hmem)
    · obtain ⟨houterName, hinnerName⟩ := h.visited _ _ hduring
      have houterOld := hbegins.mem_of_name_ne houter fun heq ↦ hbegins.fresh (heq ▸ houterName)
      have hinnerOld := hbegins.mem_of_name_ne hinner fun heq ↦ hbegins.fresh (heq ▸ hinnerName)
      exact h.ordered outer houterOld inner hinnerOld hduring

theorem shift (h : Bracketed (p :: past) p.state) (haccounted : p.state.Accounted)
    (hshift : Shift p.state q.state) : Bracketed (q :: p :: past) q.state := by
  cases hshift with
  | keep hvisits hfinished hunderway => exact h.keep hvisits hfinished hunderway
  | begins visit hbegins => exact h.begins haccounted hbegins
  | ends name hvisits hfinished hunderway => exact h.ends hvisits hfinished hunderway

end Bracketed

/-- The invariant holds wherever a run stands. -/
theorem Course.bracketed {schema : Schema} {strict : Bool} {service : Service} {past : List Point}
    {p : Point} (h : Course schema strict service past p) : Bracketed (p :: past) p.state := by
  unfold Course at h
  have hrooted := Course.start_rooted schema strict service
  induction h with
  | start => exact .start
  | next history hbusy hnext ih =>
    have hmove := (Context.next_move (history.rooted hrooted) hbusy hnext).1
    exact ih.shift (Course.sound history).accounted hmove.shift

/-! ### Where a run ends -/

namespace Result

/-- The names of the records of messages. -/
def names (result : Result) : List String :=
  result.service.messages.map Record.Message.name

/-- The position of the record of a message. -/
def position (result : Result) (visit : Visit) : Nat :=
  result.names.idxOf visit.name

/-- The positions from the index of a visit to the record of its message. -/
def range (result : Result) (visit : Visit) : Set Nat :=
  Set.Icc visit.index (result.position visit)

end Result

namespace Bracketed

variable {service : Service} {s : State} {points : List Point}

/-- Assumes: the message has a record. -/
theorem reachedDuring_iff (h : Bracketed points s) (service : Service) {visit : Visit}
    (hvisit : visit ∈ s.visits) (hmem : visit.name ∈ s.finished) :
    visit.index ≤ (s.result service).position visit ∧
      ∀ inner, ReachedDuring visit.name inner points ↔
        inner ∈ ((s.result service).names.take ((s.result service).position visit)).drop
          visit.index := by
  have hlt : s.finished.idxOf visit.name < s.finished.length := List.idxOf_lt_length_of_mem hmem
  have hsplit : s.finished = s.finished.take (s.finished.idxOf visit.name) ++
      visit.name :: s.finished.drop (s.finished.idxOf visit.name + 1) := by
    conv_lhs => rw [← List.take_append_drop (s.finished.idxOf visit.name) s.finished]
    rw [List.drop_eq_getElem_cons hlt, List.getElem_idxOf]
  obtain ⟨hle, hreached⟩ := h.finished visit hvisit _ _ hsplit
  exact ⟨hle.trans (List.length_take_le _ _), hreached⟩

/-- Assumes: both messages have a record, and the first one stands in front. Its range is inside
that of the second one, or in front of it. -/
theorem nested_or_disjoint (h : Bracketed points s) {first second : Visit}
    (hfirst : first ∈ s.visits) (hsecond : second ∈ s.visits)
    (hfirstMem : first.name ∈ s.finished) (hsecondMem : second.name ∈ s.finished)
    (hlt : (s.result service).position first < (s.result service).position second) :
    (s.result service).range first ⊆ (s.result service).range second ∨
      ∀ i ∈ (s.result service).range first, i ∉ (s.result service).range second := by
  obtain ⟨-, hreached⟩ := h.reachedDuring_iff service hsecond hsecondMem
  by_cases hbehind : second.index ≤ (s.result service).position first
  · -- The first one is among the records reached during the walk of the second one.
    have hduring : ReachedDuring second.name first.name points := by
      have hname : (s.result service).names[(s.result service).position first]? =
          some first.name := List.getElem?_idxOf hfirstMem
      rw [hreached]
      refine List.mem_of_getElem? (i := (s.result service).position first - second.index) ?_
      rw [List.getElem?_drop, Nat.add_sub_cancel' hbehind, List.getElem?_take_of_lt hlt, hname]
    have hindex := h.ordered second hsecond first hfirst hduring
    exact .inl (Set.Icc_subset_Icc hindex hlt.le)
  · refine .inr fun i hi hj ↦ hbehind ?_
    exact hj.1.trans hi.2

end Bracketed

end Flattening

/-- Wherever a run stands, the table of visits names the messages that are finished and those that
are being walked. Where it returns, the table names the records; from the index of a visit up to the
record of its message stand the records of those that were first reached while the fields of that
message were being walked; and the ranges of two messages are nested or disjoint. -/
theorem flatten_visits (schema : Schema) (strict : Bool) (service : Service) :
    (∀ past p, Course schema strict service past p → p.state.Accounted) ∧
    ∀ result, flatten schema strict service = .ok result →
      ∃ past p, Course schema strict service past p ∧ p.Done ∧ p.state.result service = result ∧
        result.names.Perm (result.visits.map Visit.name) ∧
        (∀ visit ∈ result.visits, visit.index ≤ result.position visit ∧
          ∀ inner, ReachedDuring visit.name inner (p :: past) ↔
            inner ∈ (result.names.take (result.position visit)).drop visit.index) ∧
        ∀ first ∈ result.visits, ∀ second ∈ result.visits,
          result.range first ⊆ result.range second ∨ result.range second ⊆ result.range first ∨
            ∀ i ∈ result.range first, i ∉ result.range second := by
  refine ⟨fun past p hcourse ↦ hcourse.sound.accounted, fun result hresult ↦ ?_⟩
  obtain ⟨past, p, hcourse, hdone, rfl⟩ := Course.exists_of_flatten hresult
  have hbracketed := hcourse.bracketed
  have hperm : p.state.finished.Perm p.state.visited := by
    have hnames := hcourse.sound.map_name_messages_perm hdone.1
    rwa [State.map_fst_messageOwners] at hnames
  have hmem (visit : Visit) (hvisit : visit ∈ p.state.visits) : visit.name ∈ p.state.finished :=
    hperm.mem_iff.mpr (List.mem_map_of_mem hvisit)
  refine ⟨past, p, hcourse, hdone, rfl, hperm,
    fun visit hvisit ↦ hbracketed.reachedDuring_iff service hvisit (hmem visit hvisit), ?_⟩
  intro first hfirst second hsecond
  rcases lt_trichotomy ((p.state.result service).position first)
    ((p.state.result service).position second) with hlt | heq | hgt
  · rcases hbracketed.nested_or_disjoint hfirst hsecond (hmem first hfirst) (hmem second hsecond)
      hlt with hnested | hdisjoint
    · exact .inl hnested
    · exact .inr (.inr hdisjoint)
  · -- One position belongs to one name, and one name to one visit.
    have hname : first.name = second.name := (List.idxOf_inj (hmem first hfirst)).mp heq
    obtain rfl : first = second :=
      List.inj_on_of_nodup_map hcourse.sound.accounted.nodup_visited hfirst hsecond hname
    exact .inl subset_rfl
  · rcases hbracketed.nested_or_disjoint hsecond hfirst (hmem second hsecond) (hmem first hfirst)
      hgt with hnested | hdisjoint
    · exact .inr (.inl hnested)
    · exact .inr (.inr fun i hi hj ↦ hdisjoint i hj hi)

/-- The team is first reached while the fields of the member are being walked, and so its record
stands in the range of the member. -/
theorem Club.team_inside :
    ∃ past p, Course schema true service past p ∧ p.Done ∧ p.state.result service = result ∧
      p.state.Accounted ∧ ReachedDuring "Member" "Team" (p :: past) ∧
      ¬ReachedDuring "Team" "Member" (p :: past) := by
  obtain ⟨haccounted, hreturned⟩ := flatten_visits schema true service
  obtain ⟨past, p, hcourse, hdone, hresult, -, hreached, -⟩ := hreturned result flatten_eq
  have hmember := (hreached ⟨"Member", ".club.Member", 0⟩ (.head _)).2
  have hteam := (hreached ⟨"Team", ".club.Team", 0⟩ (.tail _ (.head _))).2
  refine ⟨past, p, hcourse, hdone, hresult, haccounted past p hcourse, ?_, ?_⟩
  · rw [hmember]
    decide
  · rw [hteam]
    decide

end ClientGen
