import ClientGen.Config.Fields
import ClientGen.Proofs.Results
import Mathlib.Data.List.Nodup

/-!
# Which mappings are configurations

An entry fits if its key is known and its value has the shape of the key. To set the value of a key
is to change the one field (`Config.value_set`), and that can be done just if the shape is right
(`Config.isSome_set_iff`). So a run over entries that fit changes the fields that are given, and no
other (`Config.foldlM_setEntry`), and in a mapping each field is given once. A configuration is what
its fields are (`Config.eq_of_value_eq`), hence neither the order of the entries matters nor whether
they were read before. Unknown keys are looked for first, and else the run ends at the first value
of a wrong shape (`Config.ofValue_exact`).
-/

set_option autoImplicit false
set_option relaxedAutoImplicit false

namespace ClientGen.Config

open Yaml (Value)

variable {config other : Config String} {key : Key} {value : Value}
  {entries : List (Value × Value)}

/-! ### Keys -/

theorem Key.ofName?_eq_some_iff {name : String} : ofName? name = some key ↔ name = key.name := by
  constructor
  · intro h
    have hname : decide (key.name = name) = true :=
      List.find?_some (p := fun key : Key ↦ decide (key.name = name)) h
    exact (of_decide_eq_true hname).symm
  · rintro rfl
    cases key <;> decide

theorem Key.name_injective {first second : Key} (h : first.name = second.name) : first = second := by
  have hsecond := ofName?_eq_some_iff.mpr h
  rw [ofName?_eq_some_iff.mpr rfl] at hsecond
  exact Option.some.inj hsecond

theorem Key.mem_all (key : Key) : key ∈ all := by
  cases key <;> decide

theorem text?_eq_some_iff {text : String} : text? value = some text ↔ value = .str text := by
  cases value <;> simp [text?]

theorem key?_eq_some_iff : key? value = some key ↔ value = .str key.name := by
  rw [key?, Option.bind_eq_some_iff]
  constructor
  · rintro ⟨name, hname, hkey⟩
    rw [text?_eq_some_iff.mp hname, Key.ofName?_eq_some_iff.mp hkey]
  · rintro rfl
    exact ⟨key.name, rfl, Key.ofName?_eq_some_iff.mpr rfl⟩

/-- A value is the name of a key. -/
def IsKnown (value : Value) : Prop :=
  ∃ key : Key, value = .str key.name

theorem isNone_key?_iff : (key? value).isNone ↔ ¬IsKnown value := by
  rw [Option.isNone_iff_eq_none, Option.eq_none_iff_forall_ne_some, IsKnown, not_exists]
  exact forall_congr' fun key ↦ not_congr key?_eq_some_iff

instance : DecidablePred IsKnown :=
  fun value ↦ decidable_of_iff (¬(key? value).isNone) (by rw [isNone_key?_iff, not_not])

/-! ### Shapes -/

/-- A value has a shape. -/
def HasShape : Shape → Value → Prop
  | .text, value => ∃ text, value = .str text
  | .flag, value => ∃ flag, value = .bool flag
  | .texts, value => ∃ items : List String, value = .list (items.map .str)
  | .sources, value => ∃ sources : List (String × String),
      value = .map (sources.map fun (name, source) ↦ (.str name, .str source))

/-- A list of results that undo a function comes from the images. -/
theorem mapM_eq_some_iff {α β : Type} {f : α → Option β} {g : β → α}
    (hundo : ∀ a b, f a = some b ↔ a = g b) {l : List α} {r : List β} :
    l.mapM f = some r ↔ l = r.map g := by
  induction l generalizing r with
  | nil => cases r <;> simp
  | cons a rest ih =>
    cases r with
    | nil => simp [List.mapM_cons, Option.bind_eq_some_iff]
    | cons b more => simp [List.mapM_cons, Option.bind_eq_some_iff, hundo, ih]

theorem flag?_eq_some_iff {flag : Bool} : flag? value = some flag ↔ value = .bool flag := by
  cases value <;> simp [flag?]

theorem texts?_eq_some_iff {items : List String} :
    texts? value = some items ↔ value = .list (items.map .str) := by
  cases value with
  | list values => simp [texts?, mapM_eq_some_iff fun _ _ ↦ text?_eq_some_iff]
  | _ => simp [texts?]

theorem sources?_eq_some_iff {sources : List (String × String)} :
    sources? value = some sources ↔
      value = .map (sources.map fun (name, source) ↦ (.str name, .str source)) := by
  have hpair (entry : Value × Value) (pair : String × String) :
      (do return (← text? entry.1, ← text? entry.2)) = some pair ↔
        entry = (.str pair.1, .str pair.2) := by
    simp [Option.bind_eq_some_iff, text?_eq_some_iff, Prod.ext_iff]
  cases value with
  | map entries =>
    rw [Value.map.injEq]
    exact mapM_eq_some_iff hpair
  | _ => simp [sources?]

/-- The value of a key can be set just if it has the shape of the key. -/
theorem isSome_set_iff : (config.set key value).isSome ↔ HasShape key.shape value := by
  cases key <;> simp [set, Key.shape, HasShape, Option.isSome_iff_exists, text?_eq_some_iff,
    flag?_eq_some_iff, texts?_eq_some_iff, sources?_eq_some_iff]

theorem hasShape_value (config : Config String) (key : Key) :
    HasShape key.shape (config.value key) := by
  cases key <;> exact ⟨_, rfl⟩

/-! ### Fields -/

/-- To set the value of a key changes that field, and no other. -/
theorem value_set {changed : Config String} (h : config.set key value = some changed) :
    changed.value key = value ∧ ∀ other ≠ key, changed.value other = config.value other := by
  have hothers : ∀ other ≠ key, changed.value other = config.value other := by
    intro other hne
    cases key <;> obtain ⟨content, -, rfl⟩ := Option.map_eq_some_iff.mp h <;> cases other <;>
      first | rfl | exact absurd rfl hne
  refine ⟨?_, hothers⟩
  cases key with
  | protoPath | methodTemplate | outputDir | fileExtension | protoc =>
    obtain ⟨text, htext, rfl⟩ := Option.map_eq_some_iff.mp h
    exact (text?_eq_some_iff.mp htext).symm
  | isolateOverrides | ownComments | strictNames =>
    obtain ⟨flag, hflag, rfl⟩ := Option.map_eq_some_iff.mp h
    exact (flag?_eq_some_iff.mp hflag).symm
  | importPaths | excludePaths | imports =>
    obtain ⟨items, hitems, rfl⟩ := Option.map_eq_some_iff.mp h
    exact (texts?_eq_some_iff.mp hitems).symm
  | overrides =>
    obtain ⟨sources, hsources, rfl⟩ := Option.map_eq_some_iff.mp h
    exact (sources?_eq_some_iff.mp hsources).symm

theorem textsValue_injective {texts others : List String} (h : textsValue texts = textsValue others) :
    texts = others :=
  List.map_injective_iff.mpr (fun _ _ ↦ Value.str.inj) (Value.list.inj h)

/-- A configuration is told by the values of its fields. -/
theorem eq_of_value_eq (h : ∀ key, config.value key = other.value key) : config = other := by
  have hsources : Function.Injective fun (pair : String × String) ↦
      (Value.str pair.1, Value.str pair.2) := by
    rintro ⟨name, source⟩ ⟨name', source'⟩ heq
    simpa using heq
  rw [Config.mk.injEq]
  exact ⟨Value.str.inj (h .protoPath), textsValue_injective (h .importPaths),
    textsValue_injective (h .excludePaths), textsValue_injective (h .imports),
    Value.str.inj (h .methodTemplate),
    List.map_injective_iff.mpr hsources (Value.map.inj (h .overrides)),
    Value.str.inj (h .outputDir), Value.str.inj (h .fileExtension),
    Value.bool.inj (h .isolateOverrides), Value.bool.inj (h .ownComments),
    Value.bool.inj (h .strictNames), Value.str.inj (h .protoc)⟩

/-! ### Runs over entries -/

/-- An entry fits: its key is known, and its value has the shape of the key. -/
def Fits (entry : Value × Value) : Prop :=
  ∃ key : Key, entry.1 = .str key.name ∧ HasShape key.shape entry.2

theorem setEntry_eq (config : Config String) (key : Key) (value : Value) :
    setEntry config (.str key.name, value) = match config.set key value with
      | some changed => .ok changed
      | none => .error (.wrongShape key value.typeName) := by
  have hkey : key? (.str key.name) = some key := key?_eq_some_iff.mpr rfl
  cases hset : config.set key value <;> simp [setEntry, hkey, hset]

/-- An entry that fits changes its field, and no other. -/
theorem exists_setEntry (config : Config String) (h : HasShape key.shape value) :
    ∃ changed, setEntry config (.str key.name, value) = .ok changed ∧
      changed.value key = value ∧ ∀ other ≠ key, changed.value other = config.value other := by
  obtain ⟨changed, hchanged⟩ := Option.isSome_iff_exists.mp (isSome_set_iff.mpr h)
  exact ⟨changed, by rw [setEntry_eq, hchanged], value_set hchanged⟩

theorem setEntry_of_not_hasShape (config : Config String) (h : ¬HasShape key.shape value) :
    setEntry config (.str key.name, value) = .error (.wrongShape key value.typeName) := by
  have hnone : config.set key value = none := by
    rwa [← Option.not_isSome_iff_eq_none, isSome_set_iff]
  rw [setEntry_eq, hnone]

/-- Entries that fit are set one after the other. A field that none of them gives stays, and one
that is given once has the value that was given. -/
theorem foldlM_setEntry (config : Config String) (hfits : ∀ entry ∈ entries, Fits entry) :
    ∃ final, entries.foldlM setEntry config = .ok final ∧
      (∀ key : Key, (∀ value, (.str key.name, value) ∉ entries) →
        final.value key = config.value key) ∧
      ((entries.map Prod.fst).Nodup → ∀ (key : Key) value, (.str key.name, value) ∈ entries →
        final.value key = value) := by
  induction entries generalizing config with
  | nil => exact ⟨config, rfl, fun _ _ ↦ rfl, fun _ _ _ h ↦ absurd h List.not_mem_nil⟩
  | cons entry rest ih =>
    obtain ⟨name, value⟩ := entry
    obtain ⟨key, rfl, hshape⟩ := hfits _ List.mem_cons_self
    obtain ⟨changed, hset, hself, hothers⟩ := exists_setEntry config hshape
    obtain ⟨final, hrun, hkept, hgiven⟩ :=
      ih changed fun other hother ↦ hfits other (List.mem_cons_of_mem _ hother)
    refine ⟨final, ?_, fun other hnone ↦ ?_, fun hnodup other content hmem ↦ ?_⟩
    · rw [List.foldlM_cons, hset]
      exact hrun
    · have hne : other ≠ key := by
        rintro rfl
        exact hnone value List.mem_cons_self
      rw [hkept other fun content hcontent ↦ hnone content (List.mem_cons_of_mem _ hcontent),
        hothers other hne]
    · obtain ⟨hfresh, hrest⟩ := List.nodup_cons.mp hnodup
      rcases List.mem_cons.mp hmem with hhead | htail
      · obtain ⟨hname, rfl⟩ := Prod.ext_iff.mp hhead
        obtain rfl := Key.name_injective (Value.str.inj hname)
        rw [hkept other fun content hcontent ↦ hfresh (List.mem_map.mpr ⟨_, hcontent, rfl⟩), hself]
      · exact hgiven hrest other content htail

/-- The run ends at the first value of a wrong shape. -/
theorem foldlM_setEntry_eq_error {before after : List (Value × Value)}
    (hbefore : ∀ entry ∈ before, Fits entry) (h : ¬HasShape key.shape value) :
    (before ++ (.str key.name, value) :: after).foldlM setEntry config =
      .error (.wrongShape key value.typeName) := by
  obtain ⟨reached, hreached, -⟩ := foldlM_setEntry config hbefore
  rw [List.foldlM_append, hreached]
  change ((Value.str key.name, value) :: after).foldlM setEntry reached = _
  rw [List.foldlM_cons, setEntry_of_not_hasShape reached h]
  rfl

/-- Of entries with known keys, all fit or there is a first one with a value of a wrong shape. -/
theorem fits_or_first (hknown : ∀ entry ∈ entries, IsKnown entry.1) :
    (∀ entry ∈ entries, Fits entry) ∨
      ∃ before key value after, entries = before ++ (.str (Key.name key), value) :: after ∧
        (∀ entry ∈ before, Fits entry) ∧ ¬HasShape key.shape value := by
  induction entries with
  | nil => exact .inl fun _ h ↦ absurd h List.not_mem_nil
  | cons entry rest ih =>
    obtain ⟨name, value⟩ := entry
    obtain ⟨key, rfl⟩ : IsKnown name := hknown _ List.mem_cons_self
    by_cases hshape : HasShape key.shape value
    · have hfits : Fits (.str key.name, value) := ⟨key, rfl, hshape⟩
      rcases ih fun other hother ↦ hknown other (List.mem_cons_of_mem _ hother) with
        hall | ⟨before, wrong, content, after, rfl, hbefore, hwrong⟩
      · exact .inl (List.forall_mem_cons.mpr ⟨hfits, hall⟩)
      · exact .inr ⟨_ :: before, wrong, content, after, rfl,
          List.forall_mem_cons.mpr ⟨hfits, hbefore⟩, hwrong⟩
    · exact .inr ⟨[], key, value, rest, rfl, fun _ h ↦ absurd h List.not_mem_nil, hshape⟩

/-! ### Mappings -/

/-- The entries of a mapping: no two have the same key. -/
def IsMapping (entries : List (Value × Value)) : Prop :=
  entries.Pairwise fun first second ↦ first.1.sameKey second.1 = false

/-- A configuration as the entries of a mapping. -/
def written (config : Config String) : List (Value × Value) :=
  config.fields.map fun (key, value) ↦ (.str key.name, value)

theorem Fits.isKnown {entry : Value × Value} (h : Fits entry) : IsKnown entry.1 := by
  obtain ⟨key, hname, -⟩ := h
  exact ⟨key, hname⟩

theorem IsMapping.nodup (h : IsMapping entries) (hknown : ∀ entry ∈ entries, IsKnown entry.1) :
    (entries.map Prod.fst).Nodup := by
  rw [List.Nodup, List.pairwise_map]
  refine h.imp_of_mem fun {first second} hfirst hsecond hapart hsame ↦ ?_
  obtain ⟨key, hkey⟩ := hknown first hfirst
  rw [← hsame, hkey] at hapart
  simp [Value.sameKey] at hapart

theorem mem_written (config : Config String) (key : Key) :
    (.str key.name, config.value key) ∈ config.written :=
  List.mem_map.mpr ⟨(key, config.value key), List.mem_map.mpr ⟨key, key.mem_all, rfl⟩, rfl⟩

theorem fits_of_mem_written {entry : Value × Value} (h : entry ∈ config.written) : Fits entry := by
  obtain ⟨field, hfield, rfl⟩ := List.mem_map.mp h
  obtain ⟨key, -, rfl⟩ := List.mem_map.mp hfield
  exact ⟨key, rfl, hasShape_value config key⟩

theorem nodup_written (config : Config String) : (config.written.map Prod.fst).Nodup := by
  have hnames : config.written.map Prod.fst = Key.all.map fun key ↦ .str key.name := by
    rw [written, fields, List.map_map, List.map_map]
    rfl
  have hall : Key.all.Nodup := by decide
  rw [hnames]
  exact List.Nodup.map (fun _ _ heq ↦ Key.name_injective (Value.str.inj heq)) hall

/-- The unknown ones of some keys, as they are shown and in order. -/
def unknownNames (keys : List Value) : List String :=
  ((keys.filter fun key ↦ ¬IsKnown key).map Value.shown).mergeSort (· ≤ ·)

theorem filter_unknown (entries : List (Value × Value)) :
    (entries.filter fun entry ↦ (key? entry.1).isNone) =
      entries.filter fun entry ↦ ¬IsKnown entry.1 :=
  List.filter_congr fun _ _ ↦ Bool.eq_iff_iff.mpr (by rw [isNone_key?_iff, decide_eq_true_iff])

/-- Unknown keys are looked for first. -/
theorem ofEntries_eq (entries : List (Value × Value)) :
    ofEntries entries = if ∀ entry ∈ entries, IsKnown entry.1 then entries.foldlM setEntry {}
      else .error (.unknownKeys (unknownNames (entries.map Prod.fst))) := by
  have hnames : unknownNames (entries.map Prod.fst) =
      ((entries.filter fun entry ↦ (key? entry.1).isNone).map fun entry ↦
        entry.1.shown).mergeSort (· ≤ ·) := by
    rw [unknownNames, List.filter_map, List.map_map, filter_unknown]
    rfl
  have hempty : (entries.filter fun entry ↦ (key? entry.1).isNone).isEmpty ↔
      ∀ entry ∈ entries, IsKnown entry.1 := by
    rw [filter_unknown, List.isEmpty_iff, List.filter_eq_nil_iff]
    simp
  rw [hnames]
  exact if_congr hempty rfl rfl

/-- Entries with different keys that fit make a configuration, and what it is can be told from its
fields. -/
theorem exists_ofEntries (hfits : ∀ entry ∈ entries, Fits entry)
    (hnodup : (entries.map Prod.fst).Nodup) :
    ∃ config, ofEntries entries = .ok config ∧
      (∀ (key : Key) value, (.str key.name, value) ∈ entries → config.value key = value) ∧
      ∀ key : Key, (∀ value, (.str key.name, value) ∉ entries) →
        config.value key = ({} : Config String).value key := by
  rw [ofEntries_eq, if_pos fun entry hentry ↦ (hfits entry hentry).isKnown]
  obtain ⟨config, hrun, hkept, hgiven⟩ := foldlM_setEntry {} hfits
  exact ⟨config, hrun, hgiven hnodup, hkept⟩

/-- In another order, entries that fit make the same configuration. -/
theorem ofEntries_eq_of_perm {others : List (Value × Value)}
    (hfits : ∀ entry ∈ entries, Fits entry) (hnodup : (entries.map Prod.fst).Nodup)
    (hperm : others.Perm entries) : ofEntries others = ofEntries entries := by
  obtain ⟨config, hconfig, hgiven, hkept⟩ := exists_ofEntries hfits hnodup
  obtain ⟨other, hother, hgiven', hkept'⟩ :=
    exists_ofEntries (fun entry hentry ↦ hfits entry (hperm.mem_iff.mp hentry))
      ((hperm.map Prod.fst).nodup_iff.mpr hnodup)
  have hsame : other = config := by
    refine eq_of_value_eq fun key ↦ ?_
    by_cases hkey : ∃ value, (.str key.name, value) ∈ entries
    · obtain ⟨value, hvalue⟩ := hkey
      rw [hgiven key value hvalue, hgiven' key value (hperm.mem_iff.mpr hvalue)]
    · have hnone := not_exists.mp hkey
      rw [hkept key hnone, hkept' key fun value hvalue ↦ hnone value (hperm.mem_iff.mp hvalue)]
  rw [hconfig, hother, hsame]

/-- If entries make a configuration, then they fit. -/
theorem fits_of_ofEntries_eq_ok (h : ofEntries entries = .ok config) :
    ∀ entry ∈ entries, Fits entry := by
  rw [ofEntries_eq] at h
  split at h
  · next hknown =>
    rcases fits_or_first hknown with hall | ⟨before, key, value, after, rfl, hbefore, hwrong⟩
    · exact hall
    · rw [foldlM_setEntry_eq_error hbefore hwrong] at h
      cases h
  · cases h

/-- A mapping makes a configuration just if its entries fit. -/
theorem returns_ofEntries_iff (hmapping : IsMapping entries) :
    Returns (ofEntries entries) ↔ ∀ entry ∈ entries, Fits entry := by
  constructor
  · rintro ⟨config, hconfig⟩
    exact fits_of_ofEntries_eq_ok hconfig
  · intro hfits
    have hnodup := hmapping.nodup fun entry hentry ↦ (hfits entry hentry).isKnown
    obtain ⟨config, hconfig, -⟩ := exists_ofEntries hfits hnodup
    exact ⟨config, hconfig⟩

/-- With an unknown key among them, entries are not looked at but for their keys. -/
theorem ofEntries_of_unknown {others : List (Value × Value)}
    (hunknown : ∃ entry ∈ entries, ¬IsKnown entry.1)
    (hkeys : others.map Prod.fst = entries.map Prod.fst) :
    ofEntries others = .error (.unknownKeys (unknownNames (entries.map Prod.fst))) := by
  have hsome : ¬∀ entry ∈ others, IsKnown entry.1 := by
    rw [← List.forall_mem_map (P := IsKnown), hkeys, List.forall_mem_map]
    simpa using hunknown
  rw [ofEntries_eq, if_neg hsome, hkeys]

/-- With all keys known, what is reported is the first value of a wrong shape. -/
theorem ofEntries_eq_error_iff (hknown : ∀ entry ∈ entries, IsKnown entry.1) {fault : Fault} :
    ofEntries entries = .error fault ↔
      ∃ before key value after, entries = before ++ (.str (Key.name key), value) :: after ∧
        (∀ entry ∈ before, Fits entry) ∧ ¬HasShape key.shape value ∧
        fault = .wrongShape key value.typeName := by
  rw [ofEntries_eq, if_pos hknown]
  constructor
  · intro hfault
    rcases fits_or_first hknown with hall | ⟨before, key, value, after, rfl, hbefore, hwrong⟩
    · obtain ⟨config, hconfig, -⟩ := foldlM_setEntry {} hall
      cases hfault.symm.trans hconfig
    · rw [foldlM_setEntry_eq_error hbefore hwrong] at hfault
      exact ⟨before, key, value, after, rfl, hbefore, hwrong, (Except.error.inj hfault).symm⟩
  · rintro ⟨before, key, value, after, rfl, hbefore, hwrong, rfl⟩
    exact foldlM_setEntry_eq_error hbefore hwrong

/-- The entries of a configuration make it again. -/
theorem ofEntries_written (config : Config String) : ofEntries config.written = .ok config := by
  obtain ⟨read, hread, hgiven, -⟩ :=
    exists_ofEntries (fun _ ↦ fits_of_mem_written) (nodup_written config)
  rw [hread, eq_of_value_eq fun key ↦ hgiven key _ (mem_written config key)]

namespace Deployment

/-- Three settings. -/
def settings : List (Value × Value) :=
  [(.str "output_dir", .str "out"), (.str "imports", .list [.str "import x"]),
    (.str "own_comments", .bool true)]

/-- Settings with two unknown keys, and a value of a wrong shape. -/
def misspelt : List (Value × Value) :=
  [(.str "imports", .str "import x"), (.str "outputDir", .str "out"), (.int 7, .null)]

/-- Settings with two values of a wrong shape. -/
def misshapen : List (Value × Value) :=
  [(.str "output_dir", .str "out"), (.str "imports", .list [.str "import x", .null]),
    (.str "own_comments", .str "yes")]

theorem settings_fit : ∀ entry ∈ settings, Fits entry := by
  intro entry hentry
  simp only [settings, List.mem_cons, List.not_mem_nil, or_false] at hentry
  rcases hentry with rfl | rfl | rfl
  · exact ⟨.outputDir, rfl, "out", rfl⟩
  · exact ⟨.imports, rfl, ["import x"], rfl⟩
  · exact ⟨.ownComments, rfl, true, rfl⟩

end Deployment

end ClientGen.Config
