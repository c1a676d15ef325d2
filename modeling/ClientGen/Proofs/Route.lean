import ClientGen.Proofs.Text.Splice
import ClientGen.Route
import Mathlib.Data.List.Forall2

/-!
# Paths of routes

The path of a route is its template without closing braces, and with a colon for each opening one
(`Route.toList_colonPath`). Characters are rewritten one by one, so a template is rewritten segment
by segment (`Route.PathTemplate.colonPath_text`): literals stay, and a variable stands after a colon.
A colon inside a segment then is the one in front of the verb, so the template can be read off its
path (`Route.PathTemplate.ofPath_path`), and no two templates have the same path
(`Route.colonPath_faithful`).
-/

set_option autoImplicit false
set_option relaxedAutoImplicit false

namespace ClientGen

open Text

namespace Route

/-! ### Characters of a path -/

/-- A path template with its variables after a colon: each opening brace is a colon, and the closing
braces are left out. -/
def colonTemplate (template : List Char) : List Char :=
  (template.filter fun c ↦ c ≠ '\x7d').map fun c ↦ if c = '\x7b' then ':' else c

theorem colonPathChars_eq (cs : List Char) : colonPathChars cs = colonTemplate cs := by
  induction cs with
  | nil => rfl
  | cons c rest ih =>
    rw [colonPathChars] at ih ⊢
    by_cases hclose : c = '\x7d'
    · simpa [colonTemplate, hclose] using ih
    · by_cases hopen : c = '\x7b'
      · simpa [colonTemplate, hopen] using ih
      · simpa [colonTemplate, hclose, hopen] using ih

/-- The path of a route drops and replaces the braces of its template. -/
theorem toList_colonPath (path : String) :
    (colonPath path).toList = colonTemplate path.toList := by
  rw [colonPath, String.toList_ofList, colonPathChars_eq]

/-- A character is no brace. -/
def IsUnbraced (c : Char) : Prop :=
  c ≠ '\x7b' ∧ c ≠ '\x7d'

theorem isUnbraced_of_mem_colonTemplate {cs : List Char} {c : Char} (h : c ∈ colonTemplate cs) :
    IsUnbraced c := by
  obtain ⟨d, hd, rfl⟩ := List.mem_map.mp h
  have hclose : d ≠ '\x7d' := by simpa using (List.mem_filter.mp hd).2
  split_ifs with hopen
  · exact ⟨by decide, by decide⟩
  · exact ⟨hopen, hclose⟩

/-- A text without braces stays as it is. -/
theorem colonTemplate_of_isUnbraced {cs : List Char} (h : ∀ c ∈ cs, IsUnbraced c) :
    colonTemplate cs = cs := by
  have hkept : cs.filter (fun c ↦ c ≠ '\x7d') = cs :=
    List.filter_eq_self.mpr fun c hc ↦ by simpa using (h c hc).2
  have hsame : ∀ c ∈ cs, (if c = '\x7b' then ':' else c) = c := fun c hc ↦ if_neg (h c hc).1
  rw [colonTemplate, hkept, List.map_congr_left hsame, List.map_id']

theorem colonTemplate_append (front back : List Char) :
    colonTemplate (front ++ back) = colonTemplate front ++ colonTemplate back := by
  simp [colonTemplate]

theorem colonTemplate_joinWith (parts : List (List Char)) :
    colonTemplate (joinWith ['/'] parts) = joinWith ['/'] (parts.map colonTemplate) := by
  induction parts using joinWith.induct with
  | case1 => rfl
  | case2 part => rfl
  | case3 part parts hne ih =>
    have hslash : colonTemplate ['/'] = ['/'] := by decide
    rw [joinWith.eq_3 _ _ _ hne, List.map_cons, joinWith.eq_3 _ _ _ (by simpa using hne),
      colonTemplate_append, colonTemplate_append, hslash, ih]

/-! ### Templates -/

/-- A text with none of the characters that have a meaning in a template. -/
def IsPlain (text : List Char) : Prop :=
  ∀ c ∈ text, c ≠ '/' ∧ c ≠ ':' ∧ IsUnbraced c

instance (text : List Char) : Decidable (IsPlain text) :=
  List.decidableBAll (fun c ↦ c ≠ '/' ∧ c ≠ ':' ∧ c ≠ '\x7b' ∧ c ≠ '\x7d') text

namespace IsPlain

variable {text : List Char}

theorem noSlash (h : IsPlain text) : '/' ∉ text :=
  fun hmem ↦ (h _ hmem).1 rfl

theorem noColon (h : IsPlain text) : ':' ∉ text :=
  fun hmem ↦ (h _ hmem).2.1 rfl

theorem colonTemplate_eq (h : IsPlain text) : colonTemplate text = text :=
  colonTemplate_of_isUnbraced fun c hc ↦ (h c hc).2.2

end IsPlain

/-- A segment of a path: a literal, or the name of a variable. -/
inductive Segment
  | literal (text : List Char)
  | parameter (name : List Char)
  deriving DecidableEq, Repr

namespace Segment

/-- A segment in a template, a variable in braces. -/
def braced : Segment → List Char
  | literal text => text
  | parameter name => '\x7b' :: name ++ ['\x7d']

/-- A segment in a path, a variable after a colon. -/
def coloned : Segment → List Char
  | literal text => text
  | parameter name => ':' :: name

/-- A segment can be told from its text: it is plain, and not empty if it is a literal. -/
def IsProper : Segment → Prop
  | literal text => text ≠ [] ∧ IsPlain text
  | parameter name => IsPlain name

instance : DecidablePred IsProper
  | literal text => inferInstanceAs (Decidable (text ≠ [] ∧ IsPlain text))
  | parameter name => inferInstanceAs (Decidable (IsPlain name))

/-- A segment as it stands in a path, with what follows a colon behind it. -/
def ofParts : List (List Char) → Segment × Option (List Char)
  | [] :: name :: rest => (parameter name, rest.head?)
  | text :: rest => (literal text, rest.head?)
  | [] => (literal [], none)

variable {segment : Segment}

theorem colonTemplate_braced (h : segment.IsProper) :
    colonTemplate segment.braced = segment.coloned := by
  cases segment with
  | literal text => exact h.2.colonTemplate_eq
  | parameter name =>
    have hname : colonTemplate name = name := IsPlain.colonTemplate_eq h
    have hopen : colonTemplate ['\x7b'] = [':'] := by decide
    have hclose : colonTemplate ['\x7d'] = [] := by decide
    calc colonTemplate (['\x7b'] ++ name ++ ['\x7d'])
        = [':'] ++ name ++ [] := by
          rw [colonTemplate_append, colonTemplate_append, hopen, hname, hclose]
      _ = ':' :: name := List.append_nil _

theorem noSlash_coloned (h : segment.IsProper) : '/' ∉ segment.coloned := by
  cases segment with
  | literal text => exact h.2.noSlash
  | parameter name => exact List.not_mem_cons_of_ne_of_not_mem (by decide) (IsPlain.noSlash h)

end Segment

/-- A verb of its own behind a path. -/
def suffix : Option (List Char) → List Char
  | none => []
  | some verb => ':' :: verb

/-- A segment and the verb behind it are told apart by their colons. -/
theorem Segment.ofParts_splitOn {segment : Segment} {verb : Option (List Char)}
    (hsegment : segment.IsProper) (hverb : ∀ text ∈ verb, IsPlain text) :
    ofParts (splitOn ':' (segment.coloned ++ suffix verb)) = (segment, verb) := by
  have hcut {text : List Char} (htext : IsPlain text) :
      splitOn ':' (text ++ suffix verb) = text :: verb.toList := by
    cases verb with
    | none => rw [suffix, List.append_nil, splitOn_of_notMem htext.noColon, Option.toList_none]
    | some verb =>
      rw [suffix, splitOn_append_cons, splitOn_of_notMem htext.noColon,
        splitOn_of_notMem (hverb verb rfl).noColon]
      rfl
  cases segment with
  | literal text =>
    obtain ⟨hne, htext⟩ := hsegment
    obtain ⟨c, rest, rfl⟩ := List.exists_cons_of_ne_nil hne
    rw [coloned, hcut htext, ofParts, Option.head?_toList]
    exact nofun
  | parameter name =>
    rw [coloned, List.cons_append, splitOn_separator_cons, hcut hsegment, ofParts,
      Option.head?_toList]

/-- A path template: segments between slashes, and perhaps a verb of its own behind the last one. -/
structure PathTemplate where
  segments : List Segment
  verb : Option (List Char)
  deriving DecidableEq, Repr

namespace PathTemplate

/-- The text of a template. -/
def text (template : PathTemplate) : String :=
  String.ofList (joinWith ['/'] (template.segments.map Segment.braced) ++ suffix template.verb)

/-- The path of a template, its variables written after a colon. -/
def path (template : PathTemplate) : String :=
  String.ofList (joinWith ['/'] (template.segments.map Segment.coloned) ++ suffix template.verb)

/-- The template of a path: each part between slashes is a segment, and the last one has the verb
behind it. -/
def ofPath (path : String) : PathTemplate :=
  let read := (splitOn '/' path.toList).map fun part ↦ Segment.ofParts (splitOn ':' part)
  ⟨read.map Prod.fst, read.getLast?.bind Prod.snd⟩

/-- A template has a segment, and its parts are proper. -/
structure IsProper (template : PathTemplate) : Prop where
  segments_ne_nil : template.segments ≠ []
  segments : ∀ segment ∈ template.segments, segment.IsProper
  verb : ∀ verb ∈ template.verb, IsPlain verb

variable {template other : PathTemplate}

/-- A template is rewritten segment by segment. -/
theorem colonPath_text (h : template.IsProper) : colonPath template.text = template.path := by
  have hsegments : (template.segments.map Segment.braced).map colonTemplate =
      template.segments.map Segment.coloned := by
    rw [List.map_map]
    exact List.map_congr_left fun segment hsegment ↦
      Segment.colonTemplate_braced (h.segments segment hsegment)
  have hsuffix : colonTemplate (suffix template.verb) = suffix template.verb := by
    cases hverb : template.verb with
    | none => rfl
    | some verb =>
      have hplain : colonTemplate verb = verb := (h.verb verb hverb).colonTemplate_eq
      have hcolon : colonTemplate [':'] = [':'] := by decide
      rw [suffix, ← List.singleton_append, colonTemplate_append, hcolon, hplain]
  rw [← String.toList_inj, toList_colonPath, text, path, String.toList_ofList,
    String.toList_ofList, colonTemplate_append, colonTemplate_joinWith, hsegments, hsuffix]

/-- The parts of a path between slashes: a segment each, and the verb behind the last. -/
theorem splitOn_path {front : List Segment} {last : Segment}
    (h : template.IsProper) (hsegments : template.segments = front ++ [last]) :
    splitOn '/' template.path.toList =
      front.map Segment.coloned ++ [last.coloned ++ suffix template.verb] := by
  have hproper : ∀ segment ∈ front ++ [last], segment.IsProper := hsegments ▸ h.segments
  have hsuffix : '/' ∉ suffix template.verb := by
    cases hverb : template.verb with
    | none => exact List.not_mem_nil
    | some verb =>
      exact List.not_mem_cons_of_ne_of_not_mem (by decide) (h.verb verb hverb).noSlash
  have hjoined : template.path.toList =
      joinWith ['/'] (front.map Segment.coloned ++ [last.coloned ++ suffix template.verb]) := by
    rw [path, String.toList_ofList, hsegments, List.map_append, List.map_singleton]
    by_cases hfront : front = []
    · rw [hfront]
      rfl
    · have hne : front.map Segment.coloned ≠ [] := by simpa using hfront
      rw [joinWith_concat hne, joinWith_concat hne, List.append_assoc, List.cons_append]
  rw [hjoined]
  refine splitOn_joinWith (fun part hpart ↦ ?_) (List.concat_ne_nil _ _)
  rcases List.mem_append.mp hpart with hpart | hpart
  · obtain ⟨segment, hsegment, rfl⟩ := List.mem_map.mp hpart
    exact Segment.noSlash_coloned (hproper segment (List.mem_append_left _ hsegment))
  · obtain rfl := List.mem_singleton.mp hpart
    exact List.not_mem_append (Segment.noSlash_coloned (hproper last (by simp))) hsuffix

/-- A template can be read off its path. -/
theorem ofPath_path (h : template.IsProper) : ofPath template.path = template := by
  obtain ⟨front, last, hsegments⟩ := List.eq_nil_or_concat template.segments |>.resolve_left
    h.segments_ne_nil
  rw [List.concat_eq_append] at hsegments
  have hproper : ∀ segment ∈ front ++ [last], segment.IsProper := hsegments ▸ h.segments
  have hread : (splitOn '/' template.path.toList).map
      (fun part ↦ Segment.ofParts (splitOn ':' part)) =
      front.map (fun segment ↦ (segment, none)) ++ [(last, template.verb)] := by
    rw [splitOn_path h hsegments, List.map_append, List.map_map, List.map_singleton,
      Segment.ofParts_splitOn (hproper last (by simp)) h.verb]
    refine congrArg (· ++ _) (List.map_congr_left fun segment hsegment ↦ ?_)
    have hplain : Segment.ofParts (splitOn ':' (segment.coloned ++ suffix none)) =
        (segment, none) :=
      Segment.ofParts_splitOn (hproper segment (List.mem_append_left _ hsegment)) nofun
    rwa [suffix, List.append_nil] at hplain
  obtain ⟨segments, verb⟩ := template
  obtain rfl : segments = front ++ [last] := hsegments
  simp [ofPath, hread, Function.comp_def]

end PathTemplate

/-- A proper template is rewritten segment by segment, each variable to its name after a colon, and
can be read off the path; so no two proper templates have the same path. Any text at all loses its
closing braces, has a colon for each opening brace, and keeps every other character in its place;
then there is nothing left to rewrite. -/
theorem colonPath_faithful :
    (∀ template : PathTemplate, template.IsProper →
      colonPath template.text = template.path ∧
        PathTemplate.ofPath (colonPath template.text) = template) ∧
    (∀ template other : PathTemplate, template.IsProper → other.IsProper →
      colonPath template.text = colonPath other.text → template = other) ∧
    ∀ path : String,
      (∀ c ∈ (colonPath path).toList, IsUnbraced c) ∧
      List.Forall₂ (fun c d ↦ c = '\x7b' ∧ d = ':' ∨ IsUnbraced c ∧ d = c)
        (path.toList.filter (· ≠ '\x7d')) (colonPath path).toList ∧
      colonPath (colonPath path) = colonPath path := by
  have hread (template : PathTemplate) (h : template.IsProper) :
      PathTemplate.ofPath (colonPath template.text) = template := by
    rw [PathTemplate.colonPath_text h, PathTemplate.ofPath_path h]
  refine ⟨fun template h ↦ ⟨PathTemplate.colonPath_text h, hread template h⟩,
    fun template other h hother hpath ↦ ?_, fun path ↦ ?_⟩
  · rw [← hread template h, hpath, hread other hother]
  · have hunbraced : ∀ c ∈ (colonPath path).toList, IsUnbraced c := by
      rw [toList_colonPath]
      exact fun _ ↦ isUnbraced_of_mem_colonTemplate
    refine ⟨hunbraced, ?_, ?_⟩
    · rw [toList_colonPath, colonTemplate, List.forall₂_map_right_iff, List.forall₂_same]
      intro c hc
      have hclose : c ≠ '\x7d' := by simpa using (List.mem_filter.mp hc).2
      by_cases hopen : c = '\x7b'
      · exact .inl ⟨hopen, if_pos hopen⟩
      · exact .inr ⟨⟨hopen, hclose⟩, if_neg hopen⟩
    · rw [← String.toList_inj, toList_colonPath, colonTemplate_of_isUnbraced hunbraced]

end Route

namespace Library

open Route

/-- Moves a book to a shelf. -/
def move : PathTemplate :=
  ⟨[.literal "v1".toList, .parameter "shelf".toList, .literal "books".toList,
    .parameter "book".toList], some "move".toList⟩

/-- Asks for the moves of a book. -/
def moves : PathTemplate :=
  ⟨[.literal "v1".toList, .parameter "shelf".toList, .literal "books".toList,
    .parameter "book".toList, .parameter "move".toList], none⟩

theorem move_isProper : move.IsProper where
  segments_ne_nil := by decide
  segments := by decide
  verb := by decide

theorem moves_isProper : moves.IsProper where
  segments_ne_nil := by decide
  segments := by decide
  verb := by decide

/-- The verb of one template is not taken for the variable of the other. -/
theorem move_apart : move.IsProper ∧ moves.IsProper ∧
    move.text = "v1/\x7bshelf\x7d/books/\x7bbook\x7d:move" ∧
    colonPath move.text = "v1/:shelf/books/:book:move" ∧
    PathTemplate.ofPath "v1/:shelf/books/:book:move" = move ∧
    colonPath move.text ≠ colonPath moves.text := by
  obtain ⟨hfaithful, happart, -⟩ := colonPath_faithful
  obtain ⟨hpath, hread⟩ := hfaithful move move_isProper
  have hwritten : move.path = "v1/:shelf/books/:book:move" := by decide +kernel
  rw [hpath, hwritten] at hread
  refine ⟨move_isProper, moves_isProper, by decide +kernel, hpath.trans hwritten, hread, ?_⟩
  exact fun hsame ↦ absurd (happart move moves move_isProper moves_isProper hsame) (by decide)

end Library

end ClientGen
