import ClientGen.Client
import ClientGen.Proofs.Comment
import Mathlib.Tactic.Common

/-!
# Comments stay comments

A declaration is written in lines: those of its comment behind slashes, its header, one for each
member and a closing brace. Whatever the comments are, these are the lines that the text is cut into
(`TypeScript.madeOf_interfaceText`, `TypeScript.madeOf_enumText`), and what stands in front of
the trailing comment of a member does not depend on comments. The default template puts slashes
behind line feeds only, which is enough for a clean comment
(`Template.exists_render_defaultMethodTemplate`). So no character of a comment ends a line of
TypeScript (`comments_stay_in_lines`).
-/

set_option autoImplicit false
set_option relaxedAutoImplicit false

namespace ClientGen

open Text

/-! ### Texts made of lines -/

namespace TypeScript

/-- The characters that end a line of TypeScript, and with it a comment behind slashes. -/
def isTerminator (c : Char) : Bool :=
  c = '\n' || c = '\r' || c = '\u2028' || c = '\u2029'

/-- A text is made of lines: each is ended by a line feed, these are the lines that it is cut into,
and no terminator stands inside a line. -/
structure MadeOf (text : String) (expected : List String) : Prop where
  text_eq : text = unlines expected
  lines_eq : lines text = expected
  unterminated : ∀ line ∈ expected, ∀ c ∈ line.toList, isTerminator c = false

theorem isLineBreak_of_isTerminator {c : Char} (h : isTerminator c = true) :
    isLineBreak c = true := by
  simp only [isTerminator, Bool.or_eq_true, decide_eq_true_eq] at h
  rcases h with ((rfl | rfl) | rfl) | rfl <;> decide

theorem isTerminator_eq_false {cs : List Char} (h : Unbroken cs) {c : Char} (hc : c ∈ cs) :
    isTerminator c = false := by
  cases hterminator : isTerminator c with
  | false => rfl
  | true => exact absurd (isLineBreak_of_isTerminator hterminator) (Bool.eq_false_iff.mp (h c hc))

theorem toList_unlines (texts : List String) :
    (unlines texts).toList = (texts.map String.toList).flatMap (· ++ ['\n']) := by
  rw [unlines, String.toList_join, List.flatMap_map, List.flatMap_map]
  exact List.flatMap_congr fun text _ ↦ String.toList_append

theorem unlines_append (first second : List String) :
    unlines (first ++ second) = unlines first ++ unlines second := by
  rw [unlines, List.map_append, String.join_append]
  rfl

/-- Texts without line breaks are the lines of the text that they make up. -/
theorem madeOf_unlines {texts : List String} (h : ∀ text ∈ texts, Unbroken text.toList) :
    MadeOf (unlines texts) texts where
  text_eq := rfl
  lines_eq := by
    have hchars : ∀ cs ∈ texts.map String.toList, Unbroken cs := by
      intro cs hcs
      obtain ⟨text, htext, rfl⟩ := List.mem_map.mp hcs
      exact h text htext
    rw [lines, toList_unlines, lineChars_ended hchars, List.map_map]
    exact List.map_id'' (fun _ ↦ String.ofList_toList) texts
  unterminated := fun text htext _ hc ↦ isTerminator_eq_false (h text htext) hc

theorem unbroken_append_iff {first second : String} :
    Unbroken (first ++ second).toList ↔ Unbroken first.toList ∧ Unbroken second.toList := by
  rw [String.toList_append, unbroken_append]

/-! ### Interfaces and enums -/

theorem unbroken_of_mem_commentLines {comment line : String} (h : line ∈ commentLines comment) :
    Unbroken line.toList := by
  obtain ⟨text, htext, rfl⟩ := List.mem_map.mp h
  obtain ⟨cs, hcs, rfl⟩ := List.mem_map.mp htext
  refine unbroken_append_iff.mpr ⟨by decide, ?_⟩
  rw [String.toList_ofList]
  exact unbroken_of_mem_lineChars hcs

/-- A trailing comment is nothing, or text without breaks behind its marker. -/
theorem trailing_eq (ownComments : Bool) (own container : String) :
    trailing ownComments own container = "" ∨
      ∃ text, trailing ownComments own container = "  // " ++ text ∧ Unbroken text.toList := by
  unfold trailing
  by_cases hown : own = ""
  · exact .inl (if_pos hown)
  · rw [if_neg hown]
    by_cases htext : Comment.oneLine (if ownComments then own else container) = ""
    · exact .inl (if_pos htext)
    · exact .inr ⟨_, if_neg htext, Comment.unbroken_oneLine _⟩

theorem unbroken_trailing (ownComments : Bool) (own container : String) :
    Unbroken (trailing ownComments own container).toList := by
  rcases trailing_eq ownComments own container with hnone | ⟨text, htext, hunbroken⟩
  · rw [hnone]
    exact .nil
  · rw [htext]
    exact unbroken_append_iff.mpr ⟨by decide, hunbroken⟩

theorem Primitive.unbroken_text (primitive : Primitive) : Unbroken primitive.text.toList := by
  cases primitive with
  | number => decide
  | boolean => decide
  | string => decide

theorem unbroken_typeText {name : String} (h : Unbroken name.toList) (tag : String) :
    Unbroken (typeText tag name).toList := by
  unfold typeText
  split
  · exact Primitive.unbroken_text _
  · exact h

theorem isLineBreak_eq_false_of_isDigit {c : Char} (h : c.isDigit = true) :
    isLineBreak c = false := by
  have hcode : 48 ≤ c.toNat ∧ c.toNat ≤ 57 := Char.isDigit_iff_toNat.mp h
  simp only [isLineBreak, Bool.or_eq_false_iff, Bool.and_eq_false_iff, decide_eq_false_iff_not,
    beq_eq_false_iff_ne]
  omega

/-- A number is written in digits, behind a sign if it is negative. -/
theorem unbroken_toString (value : Int) : Unbroken (toString value).toList := by
  have hdigits (n : Nat) : Unbroken n.repr.toList := by
    intro c hc
    rw [Nat.toList_repr] at hc
    have hdigit : c.isDigit = true := Nat.isDigit_of_mem_toDigits (by decide) (by decide) hc
    exact isLineBreak_eq_false_of_isDigit hdigit
  rw [Int.toString_eq_repr, Int.repr_eq_if]
  by_cases hsign : 0 ≤ value
  · rw [if_pos hsign]
    exact hdigits _
  · rw [if_neg hsign]
    exact unbroken_append_iff.mpr ⟨by decide, hdigits _⟩

end TypeScript

/-- The names in the line of a field are on one line. Of its tags only a map key is written. -/
structure Record.Field.OneLine (field : Record.Field) : Prop where
  name : Unbroken field.name.toList
  mapKey : Unbroken field.mapKey.toList
  typeName : Unbroken field.typeName.toList

/-- The names in an interface are on one line. -/
structure Record.Message.OneLine (message : Record.Message) : Prop where
  name : Unbroken message.name.toList
  fields : ∀ field ∈ message.fields, field.OneLine

/-- The names in an enum are on one line. -/
structure Record.Enum.OneLine (enum : Record.Enum) : Prop where
  name : Unbroken enum.name.toList
  keys : ∀ item ∈ enum.items, Unbroken item.key.toList

/-- All parts of a call but its comment are on one line. -/
structure Record.Call.OneLine (call : Record.Call) : Prop where
  name : Unbroken call.name.toList
  verb : Unbroken call.verb.toList
  path : Unbroken call.path.toList
  request : Unbroken call.request.toList
  response : Unbroken call.response.toList

namespace TypeScript

theorem unbroken_fieldType {field : Record.Field} (h : field.OneLine) :
    Unbroken (fieldType field).toList := by
  unfold fieldType
  split
  · next keyType valueType valueName hkind =>
    have hkey : Unbroken keyType.toList := by
      simpa only [Record.Field.mapKey, hkind] using h.mapKey
    have hvalue : Unbroken valueName.toList := by
      simpa only [Record.Field.typeName, hkind] using h.typeName
    simp only [unbroken_append_iff]
    exact ⟨⟨⟨⟨by decide, unbroken_typeText hkey _⟩, by decide⟩, unbroken_typeText hvalue _⟩,
      by decide⟩
  · refine unbroken_append_iff.mpr ⟨unbroken_typeText h.typeName _, ?_⟩
    split
    · decide
    · decide

/-- The code of a field, without any comment. -/
def fieldCode (field : Record.Field) : String :=
  "  " ++ field.name ++ ": " ++ fieldType { field with comment := "" } ++ ";"

/-- The code of an enum value, without any comment. -/
def itemCode (item : Record.EnumItem) : String :=
  "  " ++ item.key ++ " = " ++ toString item.value ++ ","

theorem unbroken_fieldCode {field : Record.Field} (h : field.OneLine) :
    Unbroken (fieldCode field).toList := by
  have htype : Unbroken (fieldType { field with comment := "" }).toList :=
    unbroken_fieldType ⟨h.name, h.mapKey, h.typeName⟩
  simp only [fieldCode, unbroken_append_iff]
  exact ⟨⟨⟨⟨by decide, h.name⟩, by decide⟩, htype⟩, by decide⟩

theorem unbroken_itemCode {item : Record.EnumItem} (h : Unbroken item.key.toList) :
    Unbroken (itemCode item).toList := by
  simp only [itemCode, unbroken_append_iff]
  exact ⟨⟨⟨⟨by decide, h⟩, by decide⟩, unbroken_toString _⟩, by decide⟩

/-- Comment lines, a header, members with trailing comments, and a closing brace make a text of just
these lines. -/
theorem madeOf_declaration {comment header : String} {members : List String}
    (hheader : Unbroken header.toList) (hmembers : ∀ line ∈ members, Unbroken line.toList) :
    MadeOf (unlines (commentLines comment ++ [header] ++ members ++ ["\x7d"]))
      (commentLines comment ++ [header] ++ members ++ ["\x7d"]) := by
  refine madeOf_unlines fun line hline ↦ ?_
  simp only [List.mem_append, List.mem_singleton] at hline
  rcases hline with ((hcomment | rfl) | hmember) | rfl
  · exact unbroken_of_mem_commentLines hcomment
  · exact hheader
  · exact hmembers line hmember
  · decide

theorem madeOf_interfaceText (ownComments : Bool) {message : Record.Message}
    (h : message.OneLine) :
    MadeOf (interfaceText ownComments message)
      (commentLines message.comment ++ ["export interface " ++ message.name ++ " \x7b"] ++
        message.fields.map (fun field ↦
          fieldCode field ++ trailing ownComments field.comment message.comment) ++ ["\x7d"]) := by
  have hheader : Unbroken ("export interface " ++ message.name ++ " \x7b").toList := by
    simp only [unbroken_append_iff]
    exact ⟨⟨by decide, h.name⟩, by decide⟩
  refine madeOf_declaration hheader fun line hline ↦ ?_
  obtain ⟨field, hfield, rfl⟩ := List.mem_map.mp hline
  exact unbroken_append_iff.mpr
    ⟨unbroken_fieldCode (h.fields field hfield), unbroken_trailing _ _ _⟩

theorem madeOf_enumText (ownComments : Bool) {enum : Record.Enum} (h : enum.OneLine) :
    MadeOf (enumText ownComments enum)
      (commentLines enum.comment ++ ["export enum " ++ enum.name ++ " \x7b"] ++
        enum.items.map (fun item ↦
          itemCode item ++ trailing ownComments item.comment enum.comment) ++ ["\x7d"]) := by
  have hheader : Unbroken ("export enum " ++ enum.name ++ " \x7b").toList := by
    simp only [unbroken_append_iff]
    exact ⟨⟨by decide, h.name⟩, by decide⟩
  refine madeOf_declaration hheader fun line hline ↦ ?_
  obtain ⟨item, hitem, rfl⟩ := List.mem_map.mp hline
  exact unbroken_append_iff.mpr ⟨unbroken_itemCode (h.keys item hitem), unbroken_trailing _ _ _⟩

/-- The lines of the function that stands for a call by default. -/
def functionLines (call : Record.Call) : List String :=
  ["export function " ++ call.name ++ "(data: " ++ call.request ++ "): Promise<" ++
      call.response ++ "> \x7b",
    "  return request<" ++ call.response ++ ">(\"" ++ call.verb ++ "\", \"" ++ call.path ++
      "\", data);",
    "\x7d"]

theorem unbroken_of_mem_functionLines {call : Record.Call} (h : call.OneLine) {line : String}
    (hline : line ∈ functionLines call) : Unbroken line.toList := by
  simp only [functionLines, List.mem_cons, List.not_mem_nil, or_false] at hline
  rcases hline with rfl | rfl | rfl
  · simp only [unbroken_append_iff]
    exact ⟨⟨⟨⟨⟨⟨by decide, h.name⟩, by decide⟩, h.request⟩, by decide⟩, h.response⟩, by decide⟩
  · simp only [unbroken_append_iff]
    exact ⟨⟨⟨⟨⟨⟨by decide, h.response⟩, by decide⟩, h.verb⟩, by decide⟩, h.path⟩, by decide⟩
  · decide

end TypeScript

/-! ### The default template -/

namespace Template

/-- The part of the default template for the comment. -/
def defaultComment : Node :=
  .choose [(.name "comment", [
    .text "// ", .print (.filter (.name "comment") "replace" [.literal "\n", .literal "\n// "]),
    .text "\n"])] []

/-- The part of the default template for the function. -/
def defaultFunction : List Node :=
  [.text "export function ", .print (.name "name"), .text "(data: ", .print (.name "request"),
    .text "): Promise<", .print (.name "response"), .text "> \x7b\n  return request<",
    .print (.name "response"), .text ">(\"", .print (.name "method"), .text "\", \"",
    .print (.name "path"), .text "\", data);\n\x7d\n"]

theorem pieces_defaultMethodTemplate : pieces defaultMethodTemplate = .ok
    [.text [], .tag [.word "if", .word "comment"], .text "// ".toList,
      .print [.word "comment", .pipe, .word "replace", .openParen, .text "\n", .comma,
        .text "\n// ", .closeParen],
      .text ['\n'], .tag [.word "endif"], .text "export function ".toList, .print [.word "name"],
      .text "(data: ".toList, .print [.word "request"], .text "): Promise<".toList,
      .print [.word "response"], .text "> \x7b\n  return request<".toList,
      .print [.word "response"], .text ">(\"".toList, .print [.word "method"],
      .text "\", \"".toList, .print [.word "path"], .text "\", data);\n\x7d\n".toList] := by
  unfold pieces defaultMethodTemplate
  -- The characters of the literals are given, since to decode them takes too long.
  iterate 5 rw [String.toList_append]
  repeat rw [String.toList_ofList]
  decide +kernel

theorem read_defaultMethodTemplate :
    Template.read defaultMethodTemplate = .ok (.text "" :: defaultComment :: defaultFunction) := by
  unfold Template.read
  rw [pieces_defaultMethodTemplate]
  repeat rw [String.toList_ofList]
  rfl

variable {call : Record.Call}

theorem render_cons {node : Node} {rest : List Node} {first more : String}
    (hfirst : node.render call = .ok first) (hmore : render call rest = .ok more) :
    render call (node :: rest) = .ok (first ++ more) := by
  rw [render, hfirst]
  change (do return first ++ (← render call rest)) = _
  rw [hmore]
  rfl

/-- The comment is left out if it is empty, and otherwise has slashes in front and behind each line
feed. -/
theorem render_defaultComment :
    defaultComment.render call = .ok (
      if call.comment = "" then ""
      else "// " ++
        (String.ofList (replace ['\n'] "\n// ".toList call.comment.toList) ++ "\n")) := by
  by_cases hcomment : call.comment = ""
  · have htruth : (Value.text call.comment).truth = .ok false := by simp [Value.truth, hcomment]
    rw [if_pos hcomment]
    simp only [defaultComment, Node.render, renderBranches, Expr.value, nameValue, bind,
      Except.bind, htruth]
    rfl
  · have htruth : (Value.text call.comment).truth = .ok true := by simp [Value.truth, hcomment]
    rw [if_neg hcomment]
    simp only [defaultComment, Node.render, renderBranches, Expr.value, nameValue, bind,
      Except.bind, htruth]
    rfl

theorem render_defaultFunction :
    render call defaultFunction = .ok (TypeScript.unlines (TypeScript.functionLines call)) := by
  have htext : render call defaultFunction = .ok ("export function " ++ (call.name ++
      ("(data: " ++ (call.request ++ ("): Promise<" ++ (call.response ++
        ("> \x7b\n  return request<" ++ (call.response ++ (">(\"" ++ (call.verb ++
          ("\", \"" ++ (call.path ++ ("\", data);\n\x7d\n" ++ ""))))))))))))) := rfl
  have hbreak : "> \x7b\n  return request<" = "> \x7b\n" ++ "  return request<" := rfl
  rw [htext]
  simp only [String.append_empty, TypeScript.unlines, TypeScript.functionLines,
    String.append_assoc, List.map_cons, String.reduceAppend, List.map_nil, String.join_cons,
    String.join_nil, Except.ok.injEq, String.append_right_inj]
  rw [hbreak, String.append_assoc]

/-- With slashes in front, and behind each of its line feeds, a clean comment is written as its
comment lines. -/
theorem append_replace_clean (s : String) (hne : Comment.clean s ≠ "") :
    "// " ++ (String.ofList (replace ['\n'] "\n// ".toList (Comment.clean s).toList) ++ "\n") =
      TypeScript.unlines (TypeScript.commentLines (Comment.clean s)) := by
  have hclean := Comment.clean_eq_joinWith s
  have hparts : ∀ part ∈ lineChars (Comment.clean s).toList, Unbroken part :=
    fun _ ↦ unbroken_of_mem_lineChars
  unfold TypeScript.commentLines lines
  generalize lineChars (Comment.clean s).toList = parts at hclean hparts ⊢
  have hnone : parts ≠ [] := by
    intro hempty
    rw [hempty] at hclean
    exact hne (String.toList_eq_nil_iff.mp hclean)
  have hmarker : "\n// ".toList = ['\n'] ++ "// ".toList := by decide
  have hlineFeed : "\n".toList = ['\n'] := by decide
  have hreplace : replace ['\n'] "\n// ".toList (Comment.clean s).toList =
      joinWith (['\n'] ++ "// ".toList) parts := by
    rw [hclean, hmarker]
    exact replace_joinWith (fun part hpart ↦ (hparts part hpart).lineFeed_notMem) _
  apply String.toList_inj.mp
  calc ("// " ++ (String.ofList (replace ['\n'] "\n// ".toList (Comment.clean s).toList) ++
        "\n")).toList
      = "// ".toList ++ joinWith (['\n'] ++ "// ".toList) parts ++ ['\n'] := by
        rw [hreplace, String.toList_append, String.toList_append, hlineFeed,
          String.toList_ofList (l := joinWith _ _), List.append_assoc]
    _ = parts.flatMap ("// ".toList ++ · ++ ['\n']) := append_joinWith_append _ _ hnone
    _ = _ := by
      rw [TypeScript.toList_unlines, List.map_map, List.map_map, List.flatMap_map]
      exact List.flatMap_congr fun part _ ↦ by simp

/-- The default template writes a clean comment in comment lines in front of the function. -/
theorem exists_render_defaultMethodTemplate (h : call.OneLine) {s : String}
    (hcomment : call.comment = Comment.clean s) :
    ∃ nodes text, Template.read defaultMethodTemplate = .ok nodes ∧ render call nodes = .ok text ∧
      TypeScript.MadeOf text
        (TypeScript.commentLines call.comment ++ TypeScript.functionLines call) := by
  have hwritten : defaultComment.render call =
      .ok (TypeScript.unlines (TypeScript.commentLines call.comment)) := by
    rw [render_defaultComment]
    by_cases hnone : call.comment = ""
    · rw [if_pos hnone, hnone]
      rfl
    · rw [if_neg hnone, hcomment]
      rw [hcomment] at hnone
      rw [append_replace_clean s hnone]
  have htext : render call (.text "" :: defaultComment :: defaultFunction) =
      .ok (TypeScript.unlines (TypeScript.commentLines call.comment ++
        TypeScript.functionLines call)) := by
    rw [render_cons rfl (render_cons hwritten render_defaultFunction), String.empty_append,
      ← TypeScript.unlines_append]
  refine ⟨_, _, read_defaultMethodTemplate, htext, TypeScript.madeOf_unlines fun line hline ↦ ?_⟩
  rcases List.mem_append.mp hline with hcomment | hfunction
  · exact TypeScript.unbroken_of_mem_commentLines hcomment
  · exact TypeScript.unbroken_of_mem_functionLines h hfunction

end Template

open TypeScript

/-- Whatever the comments are, and whichever of them are written: if the names in an interface or an
enum are on one line, then its text is made of a comment line for each line of its comment, its
header, a line for each member in order and a closing brace. The line of a member is its code, which
no comment has a part in, and its trailing comment, which is nothing or stands behind its marker.
Likewise, if a call has a clean comment and its other parts are on one line, the default template
writes the comment lines and the three lines of the function. No line has a terminator in it. -/
theorem comments_stay_in_lines :
    (∀ (ownComments : Bool) (message : Record.Message), message.OneLine →
      MadeOf (interfaceText ownComments message)
        ((lines message.comment).map ("// " ++ ·) ++
          ["export interface " ++ message.name ++ " \x7b"] ++
          message.fields.map (fun field ↦
            fieldCode field ++ trailing ownComments field.comment message.comment) ++
          ["\x7d"])) ∧
    (∀ (ownComments : Bool) (enum : Record.Enum), enum.OneLine →
      MadeOf (enumText ownComments enum)
        ((lines enum.comment).map ("// " ++ ·) ++ ["export enum " ++ enum.name ++ " \x7b"] ++
          enum.items.map (fun item ↦
            itemCode item ++ trailing ownComments item.comment enum.comment) ++ ["\x7d"])) ∧
    (∀ (ownComments : Bool) (own container : String), trailing ownComments own container = "" ∨
      ∃ text, trailing ownComments own container = "  // " ++ text ∧ Unbroken text.toList) ∧
    ∀ (comment : String) (call : Record.Call), call.OneLine →
      call.comment = Comment.clean comment →
      ∃ nodes text, Template.read defaultMethodTemplate = .ok nodes ∧
        Template.render call nodes = .ok text ∧
        MadeOf text ((lines call.comment).map ("// " ++ ·) ++ functionLines call) :=
  ⟨fun ownComments _ h ↦ madeOf_interfaceText ownComments h,
    fun ownComments _ h ↦ madeOf_enumText ownComments h, trailing_eq,
    fun _ _ h ↦ Template.exists_render_defaultMethodTemplate h⟩

namespace Notes

/-- A message with comments that break their lines in several ways. -/
def note : Record.Message :=
  ⟨"Note", "for\u2028all\r\nto\x0bread\n\n", [
    ⟨"title", "TYPE_STRING", .scalar "TYPE_STRING" false, "on\u2029top\rof it"⟩,
    ⟨"marks", "TYPE_MESSAGE", .map "TYPE_STRING" "TYPE_MESSAGE" "Mark", ""⟩]⟩

/-- A call with a clean comment. -/
def write : Record.Call :=
  ⟨"Write", "POST", "/notes", "Note", "Note", Comment.clean " Writes\u2028\u2028 a note.\r\n "⟩

theorem note_oneLine : note.OneLine where
  name := by decide
  fields := by
    intro field hfield
    rcases List.mem_pair.mp hfield with rfl | rfl
    · exact ⟨by decide, by decide, by decide⟩
    · exact ⟨by decide, by decide, by decide⟩

theorem write_oneLine : write.OneLine :=
  ⟨by decide, by decide, by decide, by decide, by decide⟩

/-- Each line of the comments is a comment line, or is joined to the one line of its member. -/
theorem lines_of_note :
    lines (interfaceText true note) = ["// for", "// all", "// to", "// read", "// ",
      "export interface Note \x7b", "  title: string;  // on top of it",
      "  marks: \x7b [key: string]: Mark \x7d;", "\x7d"] ∧
    ∃ nodes text, Template.read defaultMethodTemplate = .ok nodes ∧
      Template.render write nodes = .ok text ∧
      lines text = ["// Writes", "// ", "// a note.",
        "export function Write(data: Note): Promise<Note> \x7b",
        "  return request<Note>(\"POST\", \"/notes\", data);", "\x7d"] := by
  obtain ⟨hinterface, -, -, hcall⟩ := comments_stay_in_lines
  obtain ⟨nodes, text, hread, hrender, hmade⟩ := hcall _ write write_oneLine rfl
  refine ⟨(hinterface true note note_oneLine).lines_eq.trans ?_, nodes, text, hread, hrender,
    hmade.lines_eq.trans ?_⟩
  · decide +kernel
  · decide +kernel

end Notes

end ClientGen
