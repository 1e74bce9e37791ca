import SuspicionMonitor.Proofs.ScannerPairs
import SuspicionMonitor.Toml.Document

/-!
# Two readings of one document

Dialects differ in what a date stands for and in which dotted keys they allow.
Where two of them read the same document, the results are alike: they differ in
nothing but the dates.  No table has a key twice.
-/

namespace SuspicionMonitor

namespace Data

def isScalar : Data → Bool
  | list _ => false
  | table _ => false
  | _ => true

mutual

/-- Data of a dialect on the left, and on the right data in which dates are
texts. -/
inductive Alike (moment : String → Data) : Data → Data → Prop where
  | same {data : Data} (hscalar : data.isScalar = true) : Alike moment data data
  | moment {data : Data} {text : String} (hmoment : data = moment text) :
      Alike moment data (.text text)
  | list {items₁ items₂ : List Data} (hitems : ItemsAlike moment items₁ items₂) :
      Alike moment (.list items₁) (.list items₂)
  | table {entries₁ entries₂ : List (String × Data)}
      (hentries : EntriesAlike moment entries₁ entries₂) :
      Alike moment (.table entries₁) (.table entries₂)

inductive ItemsAlike (moment : String → Data) : List Data → List Data → Prop where
  | nil : ItemsAlike moment [] []
  | cons {item₁ item₂ : Data} {items₁ items₂ : List Data} (hitem : Alike moment item₁ item₂)
      (hitems : ItemsAlike moment items₁ items₂) :
      ItemsAlike moment (item₁ :: items₁) (item₂ :: items₂)

/-- Tables with the same keys in the same order, each of them once. -/
inductive EntriesAlike (moment : String → Data) :
    List (String × Data) → List (String × Data) → Prop where
  | nil : EntriesAlike moment [] []
  | cons (key : String) {data₁ data₂ : Data} {entries₁ entries₂ : List (String × Data)}
      (hfresh : key ∉ entries₁.map Prod.fst) (hdata : Alike moment data₁ data₂)
      (hentries : EntriesAlike moment entries₁ entries₂) :
      EntriesAlike moment ((key, data₁) :: entries₁) ((key, data₂) :: entries₂)

end

variable {moment : String → Data}

theorem ItemsAlike.append {items₁ items₂ more₁ more₂ : List Data}
    (hitems : ItemsAlike moment items₁ items₂) (hmore : ItemsAlike moment more₁ more₂) :
    ItemsAlike moment (items₁ ++ more₁) (items₂ ++ more₂) := by
  match hitems with
  | .nil => exact hmore
  | .cons hitem hrest => exact .cons hitem (hrest.append hmore)

theorem EntriesAlike.map_fst_eq {entries₁ entries₂ : List (String × Data)}
    (hentries : EntriesAlike moment entries₁ entries₂) :
    entries₁.map Prod.fst = entries₂.map Prod.fst := by
  match hentries with
  | .nil => rfl
  | .cons _ _ _ hrest => simp [hrest.map_fst_eq]

theorem EntriesAlike.nodup_keys {entries₁ entries₂ : List (String × Data)}
    (hentries : EntriesAlike moment entries₁ entries₂) : (entries₁.map Prod.fst).Nodup := by
  match hentries with
  | .nil => exact List.nodup_nil
  | .cons _ hfresh _ hrest => exact List.nodup_cons.mpr ⟨hfresh, hrest.nodup_keys⟩

end Data

namespace Toml

mutual

/-- Nodes that hold alike data; where their tables come from does not matter. -/
inductive NodeAlike (moment : String → Data) : Node → Node → Prop where
  | value {data₁ data₂ : Data} (hdata : data₁.Alike moment data₂) :
      NodeAlike moment (.value data₁) (.value data₂)
  | table {origin₁ origin₂ : Origin} {entries₁ entries₂ : List (String × Node)}
      (hentries : EntriesAlike moment entries₁ entries₂) :
      NodeAlike moment (.table origin₁ entries₁) (.table origin₂ entries₂)
  | tables {closed₁ closed₂ : List (List (String × Node))} {last₁ last₂ : List (String × Node)}
      (hclosed : TablesAlike moment closed₁ closed₂) (hlast : EntriesAlike moment last₁ last₂) :
      NodeAlike moment (.tables closed₁ last₁) (.tables closed₂ last₂)

inductive EntriesAlike (moment : String → Data) :
    List (String × Node) → List (String × Node) → Prop where
  | nil : EntriesAlike moment [] []
  | cons (key : String) {node₁ node₂ : Node} {entries₁ entries₂ : List (String × Node)}
      (hfresh : key ∉ entries₁.map Prod.fst) (hnode : NodeAlike moment node₁ node₂)
      (hentries : EntriesAlike moment entries₁ entries₂) :
      EntriesAlike moment ((key, node₁) :: entries₁) ((key, node₂) :: entries₂)

inductive TablesAlike (moment : String → Data) :
    List (List (String × Node)) → List (List (String × Node)) → Prop where
  | nil : TablesAlike moment [] []
  | cons {entries₁ entries₂ : List (String × Node)}
      {tables₁ tables₂ : List (List (String × Node))}
      (hentries : EntriesAlike moment entries₁ entries₂)
      (htables : TablesAlike moment tables₁ tables₂) :
      TablesAlike moment (entries₁ :: tables₁) (entries₂ :: tables₂)

end

variable {moment : String → Data}

theorem map_fst_entriesData (entries : List (String × Node)) :
    (entriesData entries).map Prod.fst = entries.map Prod.fst := by
  induction entries with
  | nil => rfl
  | cons entry entries ih =>
      obtain ⟨key, node⟩ := entry
      simp [entriesData, ih]

mutual

theorem NodeAlike.toData {node₁ node₂ : Node} (hnode : NodeAlike moment node₁ node₂) :
    node₁.toData.Alike moment node₂.toData := by
  match hnode with
  | .value hdata => exact hdata
  | .table hentries => exact .table hentries.toData
  | .tables hclosed hlast =>
      exact .list (hclosed.toData.append (.cons (.table hlast.toData) .nil))

theorem EntriesAlike.toData {entries₁ entries₂ : List (String × Node)}
    (hentries : EntriesAlike moment entries₁ entries₂) :
    Data.EntriesAlike moment (entriesData entries₁) (entriesData entries₂) := by
  match hentries with
  | .nil => exact .nil
  | .cons key hfresh hnode hrest =>
      rw [← map_fst_entriesData] at hfresh
      exact .cons key hfresh hnode.toData hrest.toData

theorem TablesAlike.toData {tables₁ tables₂ : List (List (String × Node))}
    (htables : TablesAlike moment tables₁ tables₂) :
    Data.ItemsAlike moment (tablesData tables₁) (tablesData tables₂) := by
  match htables with
  | .nil => exact .nil
  | .cons hentries hrest => exact .cons (.table hentries.toData) hrest.toData

end

/-! ## Tables under construction -/

theorem TablesAlike.concat {tables₁ tables₂ : List (List (String × Node))}
    {entries₁ entries₂ : List (String × Node)} (htables : TablesAlike moment tables₁ tables₂)
    (hentries : EntriesAlike moment entries₁ entries₂) :
    TablesAlike moment (tables₁ ++ [entries₁]) (tables₂ ++ [entries₂]) := by
  match htables with
  | .nil => exact .cons hentries .nil
  | .cons hfirst hrest => exact .cons hfirst (hrest.concat hentries)

theorem EntriesAlike.map_fst_eq {entries₁ entries₂ : Entries}
    (hentries : EntriesAlike moment entries₁ entries₂) :
    entries₁.map Prod.fst = entries₂.map Prod.fst := by
  match hentries with
  | .nil => rfl
  | .cons _ _ _ hrest => simp [hrest.map_fst_eq]

theorem Entries.node?_eq_none_iff {entries : Entries} {key : String} :
    entries.node? key = none ↔ key ∉ entries.map Prod.fst := by
  rw [Entries.node?, Option.map_eq_none_iff, List.find?_eq_none, List.mem_map]
  constructor
  · rintro hnone ⟨entry, hmem, rfl⟩
    simpa using hnone entry hmem
  · intro hnone entry hmem hkey
    exact hnone ⟨entry, hmem, by simpa using hkey⟩

theorem EntriesAlike.node? {entries₁ entries₂ : Entries}
    (hentries : EntriesAlike moment entries₁ entries₂) (key : String) :
    Option.Rel (NodeAlike moment) (entries₁.node? key) (entries₂.node? key) := by
  match hentries with
  | .nil => exact .none
  | .cons other _ hnode hrest =>
      by_cases hkey : other = key
      · simpa [Entries.node?, hkey] using Option.Rel.some hnode
      · simpa [Entries.node?, hkey] using hrest.node? key

theorem EntriesAlike.add {entries₁ entries₂ : Entries} {key : String} {node₁ node₂ : Node}
    (hentries : EntriesAlike moment entries₁ entries₂) (hfresh : key ∉ entries₁.map Prod.fst)
    (hnode : NodeAlike moment node₁ node₂) :
    EntriesAlike moment (entries₁.add key node₁) (entries₂.add key node₂) := by
  match hentries with
  | .nil => exact .cons key hfresh hnode .nil
  | .cons other hother hnode' hrest =>
      rw [List.map_cons, List.mem_cons, not_or] at hfresh
      have hrest' := hrest.add hfresh.2 hnode
      exact .cons other (by simpa [Entries.add, hother] using Ne.symm hfresh.1) hnode' hrest'

theorem Entries.map_fst_replace (entries : Entries) (key : String) (node : Node) :
    (entries.replace key node).map Prod.fst = entries.map Prod.fst := by
  rw [Entries.replace, List.map_map]
  apply List.map_congr_left
  intro entry _
  simp only [Function.comp_apply]
  split <;> simp_all

theorem EntriesAlike.replace {entries₁ entries₂ : Entries} {node₁ node₂ : Node}
    (hentries : EntriesAlike moment entries₁ entries₂) (key : String)
    (hnode : NodeAlike moment node₁ node₂) :
    EntriesAlike moment (entries₁.replace key node₁) (entries₂.replace key node₂) := by
  match hentries with
  | .nil => exact .nil
  | .cons other hfresh hnode' hrest =>
      have hrest' := hrest.replace key hnode
      by_cases hkey : other = key
      · simpa [Entries.replace, hkey] using
          EntriesAlike.cons key (by rwa [Entries.map_fst_replace, ← hkey]) hnode hrest'
      · simpa [Entries.replace, hkey] using
          EntriesAlike.cons other (by rwa [Entries.map_fst_replace]) hnode' hrest'

end Toml

end SuspicionMonitor
