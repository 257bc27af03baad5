import DataGrid.Feature.BuiltIn
import DataGrid.Proofs.Pipeline.Rules

/-!
# Features by their names

A pipeline that is built from names has the features of these names, in order, and every list of
names of features builds one (`Pipeline.exists_ofNames`, `Pipeline.names_ofNames`).  The default
features have names, and so places, of their own (`Pipeline.exists_of_names`,
`Pipeline.index_eq_of_name_eq`).
-/

namespace DataGrid

variable {α : Type}

/-- The place of the feature that moves columns among the default features. -/
def movingIndex : Nat := defaultFeatures.idxOf "column_moving"

/-- The place of the feature that selects cells among the default features. -/
def cellsIndex : Nat := defaultFeatures.idxOf "cell_selection"

/-- The place of the feature that selects rows among the default features. -/
def rowsIndex : Nat := defaultFeatures.idxOf "row_selection"

/-- The place of the feature that selects columns among the default features. -/
def columnsIndex : Nat := defaultFeatures.idxOf "column_selection"

/-- Every name of a feature names one. -/
theorem BuiltIn.exists_ofName {name : String} (h : name ∈ defaultFeatures) :
  ∃ f : BuiltIn α, ofName name = .ok f
  := by
  simp only [defaultFeatures, List.mem_cons, List.not_mem_nil, or_false] at h
  obtain rfl | rfl | rfl | rfl | rfl | rfl | rfl | rfl | rfl | rfl := h <;> exact ⟨_, rfl⟩

/-- A feature that is made from a name is as it is at first. -/
theorem BuiltIn.mem_all_of_ofName {name : String} {f : BuiltIn α} (h : ofName name = .ok f) :
  f ∈ all
  := by
  unfold ofName at h
  split at h
  case h_1 g hg =>
    obtain rfl := Except.ok.inj h
    apply List.mem_of_find?_eq_some hg
  case h_2 => cases h

namespace Pipeline

theorem exists_ofNames {names : List String} (h : ∀ name ∈ names, name ∈ defaultFeatures) :
  ∃ p : Pipeline (BuiltIn α), ofNames names = .ok p
  := by
  suffices ∃ features : List (BuiltIn α), names.mapM BuiltIn.ofName = .ok features by
    obtain ⟨features, hfeatures⟩ := this
    exact ⟨ofFeatures features, by rw [ofNames, hfeatures]; rfl⟩
  induction names with
  | nil => exact ⟨[], rfl⟩
  | cons name rest ih =>
    obtain ⟨f, hf⟩ := BuiltIn.exists_ofName (α := α) (h name List.mem_cons_self)
    obtain ⟨features, hfeatures⟩ := ih fun n hn => h n (List.mem_cons_of_mem _ hn)
    refine ⟨f :: features, ?_⟩
    rw [List.mapM_cons, hf, hfeatures]
    rfl

/-- The features of some names are the feature of the first one and those of the others. -/
theorem mapM_ofName_cons {name : String} {rest : List String} {features : List (BuiltIn α)}
    (h : (name :: rest).mapM BuiltIn.ofName = .ok features) :
  ∃ f others, BuiltIn.ofName name = .ok f ∧ rest.mapM BuiltIn.ofName = .ok others
    ∧ features = f :: others
  := by
  rw [List.mapM_cons] at h
  cases hf : BuiltIn.ofName (α := α) name with
  | error e =>
    rw [hf] at h
    cases h
  | ok f =>
    cases hothers : rest.mapM (BuiltIn.ofName (α := α)) with
    | error e =>
      rw [hf, hothers] at h
      cases h
    | ok others =>
      rw [hf, hothers] at h
      obtain rfl := Except.ok.inj h
      exact ⟨f, others, rfl, rfl, rfl⟩

theorem names_of_mapM_ofName {names : List String} {features : List (BuiltIn α)}
    (h : names.mapM BuiltIn.ofName = .ok features) :
  features.map BuiltIn.name = names
  := by
  induction names generalizing features with
  | nil =>
    obtain rfl := Except.ok.inj h
    rfl
  | cons name rest ih =>
    obtain ⟨f, others, hf, hothers, rfl⟩ := mapM_ofName_cons h
    rw [List.map_cons, BuiltIn.name_of_ofName hf, ih hothers]

theorem mem_all_of_mapM_ofName {names : List String} {features : List (BuiltIn α)}
    (h : names.mapM BuiltIn.ofName = .ok features) {f : BuiltIn α} (hf : f ∈ features) :
  f ∈ BuiltIn.all
  := by
  induction names generalizing features with
  | nil =>
    obtain rfl := Except.ok.inj h
    cases hf
  | cons name rest ih =>
    obtain ⟨g, others, hg, hothers, rfl⟩ := mapM_ofName_cons h
    obtain rfl | hf := List.mem_cons.mp hf
    · apply BuiltIn.mem_all_of_ofName hg
    · apply ih hothers hf

theorem exists_of_ofNames {names : List String} {p : Pipeline (BuiltIn α)}
    (h : ofNames names = .ok p) :
  ∃ features, names.mapM BuiltIn.ofName = .ok features ∧ p = ofFeatures features
  := by
  rw [ofNames] at h
  cases hfeatures : names.mapM (BuiltIn.ofName (α := α)) with
  | error e =>
    rw [hfeatures] at h
    cases h
  | ok features =>
    rw [hfeatures] at h
    exact ⟨features, rfl, (Except.ok.inj h).symm⟩

/-- A new pipeline has the features that it is asked for, and nothing is cut off or waits. -/
theorem names_ofNames {names : List String} {p : Pipeline (BuiltIn α)} (h : ofNames names = .ok p) :
  p.features.map BuiltIn.name = names ∧ p = ofFeatures p.features
  := by
  obtain ⟨features, hfeatures, rfl⟩ := exists_of_ofNames h
  exact ⟨names_of_mapM_ofName hfeatures, rfl⟩

/-- The features of a new pipeline are as they are at first. -/
theorem mem_all_of_ofNames {names : List String} {p : Pipeline (BuiltIn α)}
    (h : ofNames names = .ok p) {f : BuiltIn α} (hf : f ∈ p.features) :
  f ∈ BuiltIn.all
  := by
  obtain ⟨features, hfeatures, rfl⟩ := exists_of_ofNames h
  apply mem_all_of_mapM_ofName hfeatures hf

/-! ### Default features -/

/-- The default features are all that there are. -/
theorem ofNames_defaultFeatures : ofNames defaultFeatures = .ok (.ofFeatures (BuiltIn.all (α := α)))
  := by
  rw [ofNames]
  rfl

section Default

variable {p : Pipeline (BuiltIn α)} {i j : Nat} {f g : BuiltIn α}

/-- The names of the features stay when the one that has a turn keeps its name. -/
theorem names_after {β μ : Type} (hf : p.features[i]? = some f) {now : Float}
    {r : Reply β (BuiltIn α) μ} (hname : r.feature.name = f.name) :
  (p.after i now r).features.map BuiltIn.name = p.features.map BuiltIn.name
  := by
  obtain ⟨hlt, rfl⟩ := List.getElem?_eq_some_iff.mp hf
  have hlt' : i < (p.features.map BuiltIn.name).length := by rwa [List.length_map]
  have hname' : p.features[i].name = (p.features.map BuiltIn.name)[i] :=
    (List.getElem_map _).symm
  rw [features_after, List.map_set, hname, hname', List.set_getElem_self]

/-- A feature of a default pipeline by its index. -/
theorem getElem?_name (hnames : p.features.map BuiltIn.name = defaultFeatures)
    (hf : p.features[i]? = some f) :
  defaultFeatures[i]? = some f.name
  := by
  rw [← hnames, List.getElem?_map, hf]
  rfl

/-- Default features have names of their own. -/
theorem index_eq_of_name_eq (hnames : p.features.map BuiltIn.name = defaultFeatures)
    (hf : p.features[i]? = some f) (hg : p.features[j]? = some g)
    (hname : f.name = g.name) :
  i = j
  := by
  have hi := getElem?_name hnames hf
  have hj := getElem?_name hnames hg
  obtain ⟨hlt, -⟩ := List.getElem?_eq_some_iff.mp hi
  rw [hname, ← hj] at hi
  apply (List.getElem?_inj hlt (by decide)).mp hi

/-- A default pipeline has a feature of the right name at every place. -/
theorem exists_of_names (hnames : p.features.map BuiltIn.name = defaultFeatures) {i : Nat}
    {name : String} (hi : defaultFeatures[i]? = some name) :
  ∃ f, p.features[i]? = some f ∧ f.name = name
  := by
  rw [← hnames, List.getElem?_map] at hi
  apply Option.map_eq_some_iff.mp hi

/-- A feature at another place has another name. -/
theorem name_ne_of_ne (hnames : p.features.map BuiltIn.name = defaultFeatures) {i j : Nat}
    {f : BuiltIn α} (hf : p.features[i]? = some f) {name : String}
    (hj : defaultFeatures[j]? = some name) (hij : i ≠ j) :
  f.name ≠ name
  := by
  obtain ⟨g, hg, rfl⟩ := exists_of_names hnames hj
  intro hname
  apply hij (index_eq_of_name_eq hnames hf hg hname)

theorem exists_rowSelection (hnames : p.features.map BuiltIn.name = defaultFeatures) :
  ∃ s, p.features[rowsIndex]? = some (.rowSelection s)
  := by
  obtain ⟨f, hf, hname⟩ := exists_of_names hnames (i := rowsIndex) rfl
  cases f with
  | rowSelection s => exact ⟨s, hf⟩
  | _ => simp [BuiltIn.name] at hname

theorem exists_columnSelection (hnames : p.features.map BuiltIn.name = defaultFeatures) :
  ∃ s, p.features[columnsIndex]? = some (.columnSelection s)
  := by
  obtain ⟨f, hf, hname⟩ := exists_of_names hnames (i := columnsIndex) rfl
  cases f with
  | columnSelection s => exact ⟨s, hf⟩
  | _ => simp [BuiltIn.name] at hname

theorem exists_columnMoving (hnames : p.features.map BuiltIn.name = defaultFeatures) :
  ∃ s, p.features[movingIndex]? = some (.columnMoving s)
  := by
  obtain ⟨f, hf, hname⟩ := exists_of_names hnames (i := movingIndex) rfl
  cases f with
  | columnMoving s => exact ⟨s, hf⟩
  | _ => simp [BuiltIn.name] at hname

theorem exists_cellSelection (hnames : p.features.map BuiltIn.name = defaultFeatures) :
  ∃ s, p.features[cellsIndex]? = some (.cellSelection s)
  := by
  obtain ⟨f, hf, hname⟩ := exists_of_names hnames (i := cellsIndex) rfl
  cases f with
  | cellSelection s => exact ⟨s, hf⟩
  | _ => simp [BuiltIn.name] at hname

theorem length_of_names (hnames : p.features.map BuiltIn.name = defaultFeatures) :
  p.features.length = 10
  := by
  rw [← List.length_map BuiltIn.name, hnames]
  rfl

/-- Features up to one that may have cut off others see every input. -/
theorem lt_attachedCount_of_names (hnames : p.features.map BuiltIn.name = defaultFeatures)
    {i k : Nat} (hdetached : p.detachedAt = none ∨ p.detachedAt = some k) (hi : i ≤ k)
    (hk : k < 10) :
  i < p.attachedCount
  := by
  rw [attachedCount, length_of_names hnames]
  obtain h | h := hdetached
  · rw [h]
    dsimp only
    omega
  · rw [h]
    dsimp only
    omega

/-- The first feature of a default pipeline is never cut off. -/
theorem attachedCount_pos (hnames : p.features.map BuiltIn.name = defaultFeatures) :
  0 < p.attachedCount
  := by
  rw [attachedCount, length_of_names hnames]
  split <;> omega

end Default

end Pipeline

end DataGrid
