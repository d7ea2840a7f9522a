import Herald.Proofs.Permissive
import Herald.Proofs.Places

/-!
Settings do not depend on how they are spelled. Each of them may be given flat or nested, as a path or in
a table, in either case and in any order: what a node makes of its configuration is the same. Beside the
value that counts there may be another one that is passed over.
-/
namespace Herald.Settings

open Config (Key Kept Place Value WritesAll)

inductive Form where
  | flat
  | nested
deriving DecidableEq

structure Given where
  key : Key
  form : Form
  value : Value

def placeOf (k : Key) : Form → Place
  | .flat => .top k.flat
  | .nested => .inside k.table k.name

def tables : List String :=
  keys.map Key.table

structure Holds (layer : List (String × Value)) (gs : List Given) : Prop where
  known : ∀ g ∈ gs, g.key ∈ keys
  written : WritesAll tables layer (gs.map fun g => (placeOf g.key g.form, g.value))

def Unusable (v : Value) : Prop :=
  v.isBlank = true ∨ v.isScalar = false

/-- More than blanks; and where a yes or a no is asked for, one of these. -/
def Usable (k : Key) (v : Value) : Prop :=
  v.isScalar = true ∧ v.isBlank = false ∧ (k = meteredKey → (Key.looseTruth? v).isSome = true)

/-- Beside a setting, what stands under its other key has no influence: a flat value that cannot be used
beside a nested one, and every nested value beside a flat one that can. -/
inductive PassedOver : Given → Given → Prop
  | flat {k : Key} {v w : Value} : Unusable w → PassedOver ⟨k, .nested, v⟩ ⟨k, .flat, w⟩
  | nested {k : Key} {v w : Value} : Usable k v → PassedOver ⟨k, .flat, v⟩ ⟨k, .nested, w⟩

theorem PassedOver.apart {g e : Given} (passed : PassedOver g e) : e.key = g.key ∧ e.form ≠ g.form := by
  cases passed
  · exact ⟨rfl, nofun⟩
  · exact ⟨rfl, nofun⟩

/-- The layer gives these values to these settings, each of them once, under whichever of its keys and in
whichever order; and nothing else but what is passed over beside them. -/
structure Spells (layer : List (String × Value)) (settings : List (Key × Value)) : Prop where
  once : (settings.map Prod.fst).Nodup
  given : ∃ gs extras all : List Given, gs.map (fun g => (g.key, g.value)) = settings ∧
    (extras.map Given.key).Nodup ∧ (∀ e ∈ extras, ∃ g ∈ gs, PassedOver g e) ∧
    all.Perm (gs ++ extras) ∧ Holds layer all

def at? (k : Key) (root : Value) : Form → Option Value
  | .flat => k.flat? root
  | .nested => k.nested? root

theorem flat_not_mem_tables : ∀ k ∈ keys, k.flat ∉ tables := by
  decide +kernel

theorem flat_injective : ∀ k ∈ keys, ∀ l ∈ keys, k.flat = l.flat → k = l := by
  decide +kernel

theorem find?_placeOf {k : Key} (known : k ∈ keys) (f : Form) (root : Value) :
    (placeOf k f).find? tables root = at? k root f := by
  cases f with
  | flat => exact if_neg (flat_not_mem_tables k known)
  | nested => exact if_pos (List.mem_map_of_mem known)

theorem placeOf_injective {k l : Key} (first : k ∈ keys) (second : l ∈ keys) {f g : Form}
    (same : placeOf k f = placeOf l g) : k = l ∧ f = g := by
  cases f <;> cases g <;> cases k <;> cases l <;> simp only [placeOf, Place.top.injEq, Place.inside.injEq,
    reduceCtorEq] at same
  · exact ⟨flat_injective _ first _ second same, rfl⟩
  · obtain ⟨rfl, rfl⟩ := same
    exact ⟨rfl, rfl⟩

theorem Holds.exists_root {layer : List (String × Value)} {gs : List Given} (holds : Holds layer gs)
    (distinct : (gs.map fun g => placeOf g.key g.form).Nodup) :
    ∃ root, Config.ofLayers [layer] = .ok root ∧ ∀ k ∈ keys, ∀ f,
      (∀ v, ⟨k, f, v⟩ ∈ gs → ∃ w, at? k root f = some w ∧ Kept v w) ∧
      ∀ w, at? k root f = some w → ∃ v, ⟨k, f, v⟩ ∈ gs ∧ Kept v w := by
  have places : (gs.map fun g => (placeOf g.key g.form, g.value)).map Prod.fst =
      gs.map fun g => placeOf g.key g.form := by
    simp only [List.map_map, Function.comp_def]
  obtain ⟨root, made, adds⟩ := Config.adds_ofLayers holds.written (places ▸ distinct)
  refine ⟨root, made, fun k known f => ?_⟩
  have written (v : Value) : (placeOf k f, v) ∈ gs.map (fun g => (placeOf g.key g.form, g.value)) ↔
      ⟨k, f, v⟩ ∈ gs := by
    constructor
    · intro mem
      obtain ⟨⟨l, g, w⟩, here, same⟩ := List.mem_map.1 mem
      obtain ⟨place, rfl⟩ := Prod.mk.inj same
      obtain ⟨rfl, rfl⟩ := placeOf_injective (holds.known _ here) known place
      exact here
    · exact fun here => List.mem_map_of_mem here
  simp only [← written, ← find?_placeOf known]
  exact ⟨(adds (placeOf k f)).1, fun w => adds.of_some⟩

/-- A way to use the values of a setting, which can do nothing with what is unusable. -/
structure Uses {α : Type} (k : Key) (use : Value → Option α) : Prop where
  unusable : ∀ v, Unusable v → use v = none
  usable : ∀ v, Usable k v → (use v).isSome = true

theorem text?_of_not_isScalar {v : Value} (other : v.isScalar = false) : v.text? = none := by
  cases v <;> first | rfl | contradiction

theorem uses_trimmedText? (k : Key) : Uses k Key.trimmedText? := by
  refine ⟨fun v unusable => ?_, fun v ⟨scalar, full, _⟩ => ?_⟩
  · obtain blank | other := unusable
    · exact Config.trimmedText?_of_isBlank blank
    · simp [Key.trimmedText?, text?_of_not_isScalar other]
  · obtain ⟨text, _, trimmed, _⟩ := Config.trimmedText?_of_isScalar scalar full
    rw [trimmed]
    rfl

theorem looseTruth?_of_isBlank {v : Value} (blank : v.isBlank = true) : Key.looseTruth? v = none := by
  cases v with
  | null => rfl
  | text s =>
    have solid : ∀ word ∈ ["1", "true", "on", "yes"] ++ ["0", "false", "off", "no"],
        (Value.text word).isBlank = false := by decide +kernel
    have other : ∀ word ∈ ["1", "true", "on", "yes"] ++ ["0", "false", "off", "no"], s ≠ word := by
      rintro word mem rfl
      rw [solid s mem] at blank
      contradiction
    have blank : ∀ c ∈ s.toList, Text.isBlank c = true := List.all_eq_true.1 blank
    have noYes : ¬ ["1", "true", "on", "yes"].contains s = true := fun mem =>
      other s (List.mem_append_left _ (List.contains_iff_mem.1 mem)) rfl
    have noNo : ¬ ["0", "false", "off", "no"].contains s = true := fun mem =>
      other s (List.mem_append_right _ (List.contains_iff_mem.1 mem)) rfl
    have nothing : Text.trim s = "" := Text.trim_eq_empty_iff.2 blank
    -- Blanks have no case, so a blank text is compared with the words as it is.
    have noWord : Value.truth? (.text s) = none := by
      rw [Value.truth?, Value.truthOfWord?, Text.lower_of_blank blank]
      simp only [if_neg noYes, if_neg noNo]
    rw [Key.looseTruth?, noWord, Value.text?, Option.map_some, nothing]
    rfl
  | _ => contradiction

theorem uses_looseTruth? : Uses meteredKey Key.looseTruth? := by
  refine ⟨fun v unusable => ?_, fun v ⟨_, _, truth⟩ => truth rfl⟩
  obtain blank | other := unusable
  · exact looseTruth?_of_isBlank blank
  · cases v <;> first | rfl | contradiction

theorem Uses.kept {α : Type} {k : Key} {use : Value → Option α} (uses : Uses k use) {v w : Value}
    (kept : Kept v w) : use w = use v := by
  obtain rfl | ⟨es, fs, rfl, rfl⟩ := kept
  · rfl
  · rw [uses.unusable (.table es) (.inr rfl), uses.unusable (.table fs) (.inr rfl)]

theorem find?_eq_of_beside {α : Type} {k : Key} {use : Value → Option α} (uses : Uses k use) {root v : Value}
    {f : Form} (value : (at? k root f).bind use = use v)
    (beside : ∀ f' w', f' ≠ f → at? k root f' = some w' →
      ∃ w, Kept w w' ∧ PassedOver ⟨k, f, v⟩ ⟨k, f', w⟩) : k.find? root use = use v := by
  unfold Key.find?
  cases f with
  | flat =>
    have flat : (k.flat? root).bind use = use v := value
    rw [flat]
    cases there : k.nested? root with
    | none => exact Option.or_none
    | some w' =>
      obtain ⟨w, _, passed⟩ := beside .nested w' nofun there
      cases passed with
      | nested usable =>
        obtain ⟨a, used⟩ := Option.isSome_iff_exists.1 (uses.usable v usable)
        rw [used]
        rfl
  | nested =>
    have nested : (k.nested? root).bind use = use v := value
    rw [nested]
    cases there : k.flat? root with
    | none => rfl
    | some w' =>
      obtain ⟨w, kept, passed⟩ := beside .flat w' nofun there
      cases passed with
      | flat unusable =>
        rw [Option.bind_some, uses.kept kept, uses.unusable w unusable]
        rfl

theorem nodup_places {gs extras : List Given} (known : ∀ g ∈ gs ++ extras, g.key ∈ keys)
    (once : (gs.map Given.key).Nodup) (apart : (extras.map Given.key).Nodup)
    (passed : ∀ e ∈ extras, ∃ g ∈ gs, PassedOver g e) :
    ((gs ++ extras).map fun g => placeOf g.key g.form).Nodup := by
  have injective : ∀ g ∈ gs ++ extras, ∀ h ∈ gs ++ extras,
      placeOf g.key g.form = placeOf h.key h.form → g.key = h.key ∧ g.form = h.form :=
    fun g first h second => placeOf_injective (known g first) (known h second)
  rw [List.map_append, List.nodup_append']
  refine ⟨?_, ?_, ?_⟩
  · refine once.of_map.map_on fun g first h second same => List.inj_on_of_nodup_map once first second ?_
    exact (injective g (List.mem_append_left _ first) h (List.mem_append_left _ second) same).1
  · refine apart.of_map.map_on fun g first h second same => List.inj_on_of_nodup_map apart first second ?_
    exact (injective g (List.mem_append_right _ first) h (List.mem_append_right _ second) same).1
  · intro p front back
    obtain ⟨g, given, rfl⟩ := List.mem_map.1 front
    obtain ⟨e, extra, same⟩ := List.mem_map.1 back
    obtain ⟨key, form⟩ := injective e (List.mem_append_right _ extra) g (List.mem_append_left _ given) same
    obtain ⟨h, given', beside⟩ := passed e extra
    -- An extra value stands beside the setting of its key, never in the same form.
    have one : g = h := List.inj_on_of_nodup_map once given given' (key.symm.trans beside.apart.1)
    exact beside.apart.2 (form.trans (congrArg Given.form one))

/-- A setting is used as the value that was given to it, however it was spelled. -/
theorem Spells.exists_root {layer : List (String × Value)} {settings : List (Key × Value)}
    (spells : Spells layer settings) : ∃ root, Config.ofLayers [layer] = .ok root ∧
      ∀ k ∈ keys, ∀ {α : Type} {use : Value → Option α}, Uses k use →
        (∀ v, (k, v) ∈ settings → k.find? root use = use v) ∧
        ((∀ v, (k, v) ∉ settings) → k.find? root use = none) := by
  obtain ⟨once, gs, extras, all, rfl, apart, passed, perm, holds⟩ := spells
  rw [List.map_map] at once
  have unique : ∀ g ∈ gs, ∀ h ∈ gs, g.key = h.key → g = h := List.inj_on_of_nodup_map once
  have mem_all {g : Given} : g ∈ all ↔ g ∈ gs ∨ g ∈ extras := by rw [perm.mem_iff, List.mem_append]
  have distinct := nodup_places (fun g mem => holds.known g (perm.mem_iff.2 mem)) once apart passed
  obtain ⟨root, made, shown⟩ := holds.exists_root ((perm.map _).nodup_iff.2 distinct)
  refine ⟨root, made, fun k known _ use uses => ⟨fun v mem => ?_, fun absent => ?_⟩⟩
  · obtain ⟨⟨k', f, v'⟩, given, same⟩ := List.mem_map.1 mem
    obtain ⟨rfl, rfl⟩ : k = k' ∧ v = v' := Prod.mk.inj same.symm
    obtain ⟨w, here, kept⟩ := (shown k known f).1 v (mem_all.2 (.inl given))
    refine find?_eq_of_beside uses (by rw [here, Option.bind_some, uses.kept kept]) fun f' w' ne there => ?_
    -- The setting is given once, so what stands in the other form is an extra value.
    obtain ⟨w, mem, kept⟩ := (shown k known f').2 w' there
    obtain mem | mem := mem_all.1 mem
    · exact absurd (congrArg Given.form (unique _ mem _ given rfl)) ne
    · obtain ⟨g, given', beside⟩ := passed _ mem
      rw [unique g given' _ given beside.apart.1.symm] at beside
      exact ⟨w, kept, beside⟩
  · have told {g : Given} (mem : g ∈ gs) (same : g.key = k) : False :=
      absent g.value (same ▸ List.mem_map.2 ⟨g, mem, rfl⟩)
    have gone (f : Form) : at? k root f = none := by
      refine Option.eq_none_iff_forall_ne_some.2 fun w there => ?_
      obtain ⟨v, here, _⟩ := (shown k known f).2 w there
      obtain mem | mem := mem_all.1 here
      · exact told mem rfl
      · obtain ⟨g, given, beside⟩ := passed _ mem
        exact told given beside.apart.1.symm
    have flat : k.flat? root = none := gone .flat
    have nested : k.nested? root = none := gone .nested
    rw [Key.find?, flat, nested]
    rfl

/-- What `use` makes of the value that is given to a setting. -/
def used {α : Type} (settings : List (Key × Value)) (use : Value → Option α) (k : Key) : Option α :=
  (settings.lookup k).bind use

theorem lookup_of_mem {settings : List (Key × Value)} (once : (settings.map Prod.fst).Nodup) {k : Key}
    {v : Value} (mem : (k, v) ∈ settings) : settings.lookup k = some v := by
  obtain ⟨front, back, rfl⟩ := List.append_of_mem mem
  rw [List.map_append, List.nodup_append'] at once
  refine List.lookup_eq_some_iff.2 ⟨front, back, rfl, fun p early => ?_⟩
  have other : p.1 ≠ k := fun same => once.2.2 (List.mem_map_of_mem early) (by simp [same])
  simpa using Ne.symm other

theorem Spells.exists_root_used {layer : List (String × Value)} {settings : List (Key × Value)}
    (spells : Spells layer settings) : ∃ root, Config.ofLayers [layer] = .ok root ∧
      ∀ k ∈ keys, ∀ {α : Type} {use : Value → Option α}, Uses k use →
        k.find? root use = used settings use k := by
  obtain ⟨root, made, finds⟩ := spells.exists_root
  refine ⟨root, made, fun k known _ use uses => ?_⟩
  unfold used
  cases there : settings.lookup k with
  | none =>
    refine (finds k known uses).2 fun v mem => ?_
    rw [lookup_of_mem spells.once mem] at there
    contradiction
  | some v =>
    obtain ⟨front, back, rfl, _⟩ := List.lookup_eq_some_iff.1 there
    exact (finds k known uses).1 v (by simp)

theorem ofConfig_congr {root root' : Value} (texts : ∀ k ∈ keys, k.text? root = k.text? root')
    (truth : meteredKey.truth? root = meteredKey.truth? root') : ofConfig root = ofConfig root' := by
  simp only [keys, List.forall_mem_cons] at texts
  obtain ⟨_, _⟩ := texts
  simp only [ofConfig, parsed, *]

/-- Two layers that give the same values to the same settings make the same settings, or the same fault:
the settings that these values say, or the fault of one of these values. -/
theorem ofConfig_respelled {layer layer' : List (String × Value)} {settings : List (Key × Value)}
    (first : Spells layer settings) (second : Spells layer' settings) : ∃ root root',
      Config.ofLayers [layer] = .ok root ∧ Config.ofLayers [layer'] = .ok root' ∧
        ofConfig root = ofConfig root' ∧
        (∀ s : Settings, ofConfig root = .ok s ↔
          s.Reflects (used settings Key.trimmedText?) (used settings Key.looseTruth? meteredKey)) ∧
        ∀ fault, ofConfig root = .error fault → Refused (used settings Key.trimmedText?) fault := by
  obtain ⟨root, made, finds⟩ := first.exists_root_used
  obtain ⟨root', made', finds'⟩ := second.exists_root_used
  have texts : ∀ k ∈ keys, k.text? root = used settings Key.trimmedText? k :=
    fun k known => finds k known (uses_trimmedText? k)
  have texts' : ∀ k ∈ keys, k.text? root' = used settings Key.trimmedText? k :=
    fun k known => finds' k known (uses_trimmedText? k)
  have truth : meteredKey.truth? root = used settings Key.looseTruth? meteredKey :=
    finds _ (by decide) uses_looseTruth?
  have truth' : meteredKey.truth? root' = used settings Key.looseTruth? meteredKey :=
    finds' _ (by decide) uses_looseTruth?
  refine ⟨root, root', made, made', ?_, fun s => ?_, fun fault failed => ?_⟩
  · exact ofConfig_congr (fun k known => (texts k known).trans (texts' k known).symm)
      (truth.trans truth'.symm)
  · rw [ofConfig_eq_ok_iff, truth]
    exact reflects_congr texts
  · exact (refused_of_ofConfig failed).congr texts

def tabledLayer : List (String × Value) :=
  [("ingest", .table [("port", .int 7)]), ("STORE_MODE", .text "ipfs"), ("log_level", .text "debug")]

def mixedLayer : List (String × Value) :=
  [("Store.Mode", .text "ipfs"), ("INGEST", .table [("Port", .int 7)]), ("ingest_port", .text " "),
    ("Log_Level", .text "debug"), ("log.level", .text "trace")]

def spelledSettings : List (Key × Value) :=
  [(ingestPortKey, .int 7), (storeModeKey, .text "ipfs"), (logLevelKey, .text "debug")]

theorem writes_port {name entry : String} (table : Text.lower name = "ingest")
    (lowered : Text.lower entry = "port") : Config.Writes tables (name, .table [(entry, .int 7)])
      [(.inside "ingest" "port", .int 7)] := by
  have writes : Config.Writes tables (name, .table [(entry, .int 7)]) _ :=
    .table (by decide +kernel) (by decide) table
  simpa [Value.lowered, lowered] using writes

theorem spells_tabledLayer : Spells tabledLayer spelledSettings := by
  refine ⟨by decide, [⟨ingestPortKey, .nested, .int 7⟩, ⟨storeModeKey, .flat, .text "ipfs"⟩,
    ⟨logLevelKey, .flat, .text "debug"⟩], [], _, rfl, .nil, nofun, .refl _, by simp [keys], ?_⟩
  refine .cons (writes_port ?_ ?_) (.cons (.top ?_ ?_ ?_) (.cons (.top ?_ ?_ ?_) .nil)) <;> decide +kernel

theorem spells_mixedLayer : Spells mixedLayer spelledSettings := by
  refine ⟨by decide, [⟨ingestPortKey, .nested, .int 7⟩, ⟨storeModeKey, .nested, .text "ipfs"⟩,
    ⟨logLevelKey, .flat, .text "debug"⟩], [⟨ingestPortKey, .flat, .text " "⟩,
    ⟨logLevelKey, .nested, .text "trace"⟩], [⟨storeModeKey, .nested, .text "ipfs"⟩,
    ⟨ingestPortKey, .nested, .int 7⟩, ⟨ingestPortKey, .flat, .text " "⟩, ⟨logLevelKey, .flat, .text "debug"⟩,
    ⟨logLevelKey, .nested, .text "trace"⟩], rfl, by decide, ?_, ?_, by simp [keys], ?_⟩
  · simp only [List.forall_mem_cons, List.not_mem_nil, false_implies, implies_true, and_true]
    exact ⟨⟨_, .head _, .flat (.inl (by decide))⟩,
      ⟨_, .tail _ (.tail _ (.head _)), .nested ⟨rfl, by decide, fun same => absurd same (by decide)⟩⟩⟩
  · exact (List.Perm.swap _ _ _).trans (.cons _ (.cons _ (.swap _ _ _)))
  · refine .cons (.path ?_ ?_ ?_ ?_) (.cons (writes_port ?_ ?_) (.cons (.top ?_ ?_ ?_)
      (.cons (.top ?_ ?_ ?_) (.cons (.path ?_ ?_ ?_ ?_) .nil)))) <;> decide +kernel

theorem exists_of_isSome {ε δ α β : Type} {x : Except ε α} {f : α → Except δ β} {a : α}
    (made : x = .ok a) (done : (x.toOption.bind fun a => (f a).toOption).isSome = true) :
    ∃ b, f a = .ok b := by
  subst made
  cases read : f a with
  | error fault => simp [Except.toOption, read] at done
  | ok b => exact ⟨b, rfl⟩

theorem used_spelledSettings : used spelledSettings Key.trimmedText? ingestPortKey = some "7" ∧
    used spelledSettings Key.trimmedText? storeModeKey = some "ipfs" ∧
      used spelledSettings Key.trimmedText? logLevelKey = some "debug" := by decide +kernel

/-- A setting that moves out of its table and one that moves into it, in other letters; a blank beside a
nested value and a nested value beside a flat one. -/
theorem ofConfig_respelled_mixed : ∃ root root' s, Config.ofLayers [tabledLayer] = .ok root ∧
    Config.ofLayers [mixedLayer] = .ok root' ∧ ofConfig root = .ok s ∧ ofConfig root' = .ok s ∧
    s.ingestPort = 7 ∧ s.storeMode = .ipfs ∧ s.logLevel = "debug" := by
  obtain ⟨root, root', made, made', same, reflects, refused⟩ :=
    ofConfig_respelled spells_tabledLayer spells_mixedLayer
  obtain ⟨s, read⟩ := exists_of_isSome (f := ofConfig) made (by decide +kernel)
  have given := (reflects s).1 read
  obtain ⟨port, mode, level⟩ := used_spelledSettings
  have seven : readUInt16 "7" = .ok 7 := by decide +kernel
  have ipfs : readStoreMode "ipfs" = .ok .ipfs := by decide +kernel
  have portTaken := given.ingestPort
  have modeTaken := given.storeMode
  have levelTaken := given.logLevel
  rw [port, takes_some_iff, seven] at portTaken
  rw [mode, Option.getD_some, ipfs] at modeTaken
  rw [level, Option.getD_some] at levelTaken
  exact ⟨root, root', s, made, made', read, same ▸ read, (Except.ok.inj portTaken).symm,
    (Except.ok.inj modeTaken).symm, levelTaken⟩

end Herald.Settings
