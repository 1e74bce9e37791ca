import SuspicionMonitor.Filing
import SuspicionMonitor.Proofs.HeldSuspicions
import SuspicionMonitor.Proofs.LeadingPhases

/-!
# The layout of a ledger

A filing keeps no empty group and no empty round, and every suspicion in it
stands under its own round and phase.  With that it is a layout of a ledger:
both hold the same suspicions, feed the same ones to the graph, and count alike.
-/

namespace SuspicionMonitor

section Entries

variable {Key Value α : Type} [Ord Key] [Std.TransOrd Key] [Std.LawfulEqOrd Key]
  {map : Std.ExtTreeMap Key Value} {content : Value → List α}

theorem mem_entries {a : α} :
    a ∈ map.toList.flatMap (fun entry => content entry.2) ↔
      ∃ (key : Key) (value : Value), map[key]? = some value ∧ a ∈ content value := by
  simp [List.mem_flatMap, Std.ExtTreeMap.mem_toList_iff_getElem?_eq_some]

theorem pairwise_entries [Ord α]
    (hwithin : ∀ (key : Key) (value : Value), map[key]? = some value →
      (content value).Pairwise fun a b => compare a b = .lt)
    (hacross : ∀ (key later : Key) (value other : Value), map[key]? = some value →
      map[later]? = some other → compare key later = .lt →
        ∀ a ∈ content value, ∀ b ∈ content other, compare a b = .lt) :
    (map.toList.flatMap fun entry => content entry.2).Pairwise fun a b => compare a b = .lt := by
  have hentry : ∀ entry ∈ map.toList, map[entry.1]? = some entry.2 := fun entry hentry =>
    Std.ExtTreeMap.mem_toList_iff_getElem?_eq_some.mp hentry
  refine List.pairwise_flatMap.mpr ⟨fun entry hmem => hwithin _ _ (hentry entry hmem), ?_⟩
  refine map.ordered_keys_toList.imp_of_mem ?_
  intro entry later hmem hlater hlt
  exact hacross _ _ _ _ (hentry entry hmem) (hentry later hlater) hlt

end Entries

theorem Suspicion.compare_of_round {first second : Suspicion}
    (hround : compare first.round second.round = .lt) : compare first second = .lt := by
  change compareLex _ _ first second = .lt
  simp [compareLex, compareOn, hround]

theorem Suspicion.compare_of_phase {first second : Suspicion}
    (hround : first.round = second.round) (hphase : compare first.phase second.phase = .lt) :
    compare first second = .lt := by
  change compareLex _ _ first second = .lt
  simp [compareLex, compareOn, hround, hphase]

theorem totalSize_eq_sum (sizes : List Nat) : totalSize sizes = sizes.sum :=
  List.sum_eq_foldr.symm

namespace RoundFile

/-- No group is empty, and what is in a group is of its phase and of the round. -/
structure IsTidy (file : RoundFile) (round : Round) : Prop where
  filled : ∀ (phase : Phase) (group : Std.ExtTreeSet Suspicion), file.groups[phase]? = some group →
    ∃ suspicion, suspicion ∈ group
  own : ∀ (phase : Phase) (group : Std.ExtTreeSet Suspicion), file.groups[phase]? = some group →
    ∀ suspicion : Suspicion, suspicion ∈ group →
      suspicion.round = round ∧ suspicion.phase = phase

variable {file : RoundFile} {round : Round} {suspicion : Suspicion}

theorem isTidy_empty (round : Round) : ({} : RoundFile).IsTidy round := by
  constructor <;> simp

theorem mem_group_iff {phase : Phase} :
    suspicion ∈ file.group phase ↔
      ∃ group : Std.ExtTreeSet Suspicion, file.groups[phase]? = some group ∧
        suspicion ∈ group := by
  rw [RoundFile.group, Std.ExtTreeMap.getD_eq_getD_getElem?]
  cases file.groups[phase]? <;> simp

theorem IsTidy.mem_suspicions (htidy : file.IsTidy round) :
    suspicion ∈ file.suspicions ↔
      suspicion.round = round ∧ suspicion ∈ file.group suspicion.phase := by
  rw [suspicions, mem_entries, mem_group_iff]
  simp only [Std.ExtTreeSet.mem_toList]
  constructor
  · rintro ⟨phase, group, hgroup, hmem⟩
    obtain ⟨hround, rfl⟩ := htidy.own phase group hgroup suspicion hmem
    exact ⟨hround, group, hgroup, hmem⟩
  · rintro ⟨-, group, hgroup, hmem⟩
    exact ⟨_, group, hgroup, hmem⟩

theorem IsTidy.pairwise_suspicions (htidy : file.IsTidy round) :
    file.suspicions.Pairwise fun a b => compare a b = .lt := by
  apply pairwise_entries
  · intro phase group _
    exact group.ordered_toList
  · intro phase later group other hgroup hother hlt first hfirst second hsecond
    have hown := htidy.own phase group hgroup first (Std.ExtTreeSet.mem_toList.mp hfirst)
    have hnext := htidy.own later other hother second (Std.ExtTreeSet.mem_toList.mp hsecond)
    apply Suspicion.compare_of_phase (hown.1.trans hnext.1.symm)
    rw [hown.2, hnext.2, hlt]

theorem length_suspicions (file : RoundFile) : file.suspicions.length = file.size := by
  simp [suspicions, size, totalSize_eq_sum, List.length_flatMap]

theorem mem_group_store (stored : Suspicion) :
    suspicion ∈ (file.store stored).group suspicion.phase ↔
      suspicion ∈ file.group suspicion.phase ∨ suspicion = stored := by
  rw [RoundFile.group, store, Std.ExtTreeMap.getD_insert]
  by_cases hphase : stored.phase = suspicion.phase
  · simp only [hphase, Std.ReflCmp.compare_self, if_true, Std.ExtTreeSet.mem_insert,
      Std.LawfulEqOrd.compare_eq_iff_eq]
    rw [or_comm, eq_comm]
  · have hne : suspicion ≠ stored := fun heq => hphase (congrArg Suspicion.phase heq.symm)
    simp [hphase, hne, RoundFile.group]

theorem IsTidy.store (htidy : file.IsTidy suspicion.round) :
    (file.store suspicion).IsTidy suspicion.round := by
  have hcases : ∀ (phase : Phase) (group : Std.ExtTreeSet Suspicion),
      (file.store suspicion).groups[phase]? = some group →
        phase = suspicion.phase ∧ group = (file.group suspicion.phase).insert suspicion ∨
          file.groups[phase]? = some group := by
    intro phase group hgroup
    rw [RoundFile.store, Std.ExtTreeMap.getElem?_insert] at hgroup
    split at hgroup
    · next heq =>
        exact Or.inl ⟨(Std.LawfulEqOrd.compare_eq_iff_eq.mp heq).symm, by simpa using hgroup.symm⟩
    · exact Or.inr hgroup
  constructor
  · intro phase group hgroup
    rcases hcases phase group hgroup with ⟨-, rfl⟩ | hold
    · exact ⟨suspicion, by simp⟩
    · exact htidy.filled phase group hold
  · intro phase group hgroup other hother
    rcases hcases phase group hgroup with ⟨rfl, rfl⟩ | hold
    · rcases Std.ExtTreeSet.mem_insert.mp hother with heq | hmem
      · rw [← Std.LawfulEqOrd.compare_eq_iff_eq.mp heq]
        exact ⟨rfl, rfl⟩
      · obtain ⟨group, hgroup, hmem⟩ := mem_group_iff.mp hmem
        exact htidy.own _ group hgroup other hmem
    · exact htidy.own phase group hold other hother

theorem IsTidy.own_of_mem_toList (htidy : file.IsTidy round) {phase : Phase}
    {group : Std.ExtTreeSet Suspicion compare} (hentry : (phase, group) ∈ file.groups.toList) :
    ∀ suspicion ∈ group.toList, suspicion.round = round ∧ suspicion.phase = phase := by
  intro suspicion hmem
  exact htidy.own phase group (Std.ExtTreeMap.mem_toList_iff_getElem?_eq_some.mp hentry)
    suspicion (Std.ExtTreeSet.mem_toList.mp hmem)

theorem IsTidy.rank_lt_of_behind (htidy : file.IsTidy round) {phase : Phase}
    {earliest : Std.ExtTreeSet Suspicion} {rest : List (Phase × Std.ExtTreeSet Suspicion)}
    (hlist : file.groups.toList = (phase, earliest) :: rest) :
    ∀ other ∈ rest.flatMap (fun entry => entry.2.toList),
      other.round = round ∧ phase.rank < other.phase.rank := by
  intro other hother
  obtain ⟨entry, hrest, hmem⟩ := List.mem_flatMap.mp hother
  have hentry : entry ∈ file.groups.toList := by
    rw [hlist]
    exact List.mem_cons_of_mem _ hrest
  obtain ⟨hround, hphase⟩ := htidy.own_of_mem_toList hentry other hmem
  have hsorted := file.groups.ordered_keys_toList
  rw [hlist] at hsorted
  refine ⟨hround, ?_⟩
  rw [hphase]
  exact Nat.compare_eq_lt.mp (List.rel_of_pairwise_cons hsorted hrest)

/-- The first group of a round is the one that nothing is ahead of. -/
theorem IsTidy.mem_due (htidy : file.IsTidy round) :
    suspicion ∈ file.due ↔ suspicion ∈ file.suspicions ∧
      Ledger.leads file.suspicions suspicion = true ∧ suspicion ∉ file.fed := by
  cases hlist : file.groups.toList with
  | nil => simp [due, suspicions, hlist]
  | cons entry rest =>
      rcases entry with ⟨phase, earliest⟩
      have hentry : (phase, earliest) ∈ file.groups.toList := by simp [hlist]
      have hown := htidy.own_of_mem_toList hentry
      have hbehind := htidy.rank_lt_of_behind hlist
      have hall : file.suspicions = earliest.toList ++ rest.flatMap (·.2.toList) := by
        simp [suspicions, hlist]
      have hdue : suspicion ∈ file.due ↔ suspicion ∈ earliest.toList ∧ suspicion ∉ file.fed := by
        rw [due, hlist, List.mem_filter, Bool.not_eq_true', ← Bool.not_eq_true,
          ← Std.ExtTreeSet.mem_iff_contains]
      rw [hdue, hall, List.mem_append, Ledger.leads_iff]
      constructor
      · rintro ⟨hmem, hfed⟩
        refine ⟨Or.inl hmem, ?_, hfed⟩
        intro other hother
        rw [Bool.eq_false_iff, Ne, Suspicion.isAheadOf_iff, (hown suspicion hmem).2]
        rintro ⟨-, hrank⟩
        rcases List.mem_append.mp hother with hsame | hrest
        · rw [(hown other hsame).2] at hrank
          exact Nat.lt_irrefl _ hrank
        · exact Nat.lt_asymm hrank (hbehind other hrest).2
      · rintro ⟨hmem | hrest, hleads, hfed⟩
        · exact ⟨hmem, hfed⟩
        · -- Something is in the first group, and that is ahead of what is behind.
          obtain ⟨first, hfirst⟩ := htidy.filled phase earliest
            (Std.ExtTreeMap.mem_toList_iff_getElem?_eq_some.mp hentry)
          have hlisted := Std.ExtTreeSet.mem_toList.mpr hfirst
          obtain ⟨hround, hphase⟩ := hown first hlisted
          obtain ⟨hsame, hrank⟩ := hbehind suspicion hrest
          rw [← hphase] at hrank
          have hahead : first.isAheadOf suspicion = true :=
            Suspicion.isAheadOf_iff.mpr ⟨hround.trans hsame.symm, hrank⟩
          rw [hleads first (List.mem_append_left _ hlisted)] at hahead
          contradiction

theorem due_subset (file : RoundFile) : file.due ⊆ file.suspicions := by
  intro suspicion hdue
  unfold due at hdue
  split at hdue
  · contradiction
  · next phase earliest rest hlist =>
      rw [suspicions, hlist]
      exact List.mem_append_left _ (List.mem_of_mem_filter hdue)

theorem pairwise_due (file : RoundFile) :
    file.due.Pairwise fun a b => compare a b = .lt := by
  unfold due
  split
  · exact List.Pairwise.nil
  · next earliest _ _ => exact earliest.ordered_toList.filter _

end RoundFile

/-! ## All rounds -/

namespace Filing

/-- Every file is that of its round, and none is empty. -/
structure IsTidy (filing : Filing) : Prop where
  files : ∀ round, (filing.fileOf round).IsTidy round
  filled : ∀ (round : Round) (file : RoundFile), filing.rounds[round]? = some file →
    file.suspicions ≠ []

variable {filing : Filing} {round : Round} {suspicion : Suspicion}

theorem isTidy_empty : empty.IsTidy := by
  constructor
  · exact RoundFile.isTidy_empty
  · simp [empty]

theorem fileOf_of_getElem? {file : RoundFile} (hfile : filing.rounds[round]? = some file) :
    filing.fileOf round = file := by
  rw [fileOf, Std.ExtTreeMap.getD_eq_getD_getElem?, hfile, Option.getD_some]

theorem getElem?_of_mem {phase : Phase} (hmem : suspicion ∈ (filing.fileOf round).group phase) :
    filing.rounds[round]? = some (filing.fileOf round) := by
  cases hfile : filing.rounds[round]? with
  | none =>
      rw [fileOf, Std.ExtTreeMap.getD_eq_getD_getElem?, hfile] at hmem
      simp [RoundFile.group] at hmem
  | some file => rw [fileOf_of_getElem? hfile]

theorem IsTidy.file (htidy : filing.IsTidy) {file : RoundFile}
    (hfile : filing.rounds[round]? = some file) : file.IsTidy round := by
  rw [← fileOf_of_getElem? hfile]
  exact htidy.files round

theorem IsTidy.pairwise_entries (htidy : filing.IsTidy) {content : RoundFile → List Suspicion}
    (hsubset : ∀ file, content file ⊆ file.suspicions)
    (hsorted : ∀ (round : Round) (file : RoundFile), file.IsTidy round →
      (content file).Pairwise fun a b => compare a b = .lt) :
    (filing.rounds.toList.flatMap fun entry => content entry.2).Pairwise
      fun a b => compare a b = .lt := by
  apply SuspicionMonitor.pairwise_entries
  · intro round file hfile
    exact hsorted round file (htidy.file hfile)
  · intro round later file other hfile hother hlt first hfirst second hsecond
    have hround := ((htidy.file hfile).mem_suspicions.mp (hsubset _ hfirst)).1
    have hnext := ((htidy.file hother).mem_suspicions.mp (hsubset _ hsecond)).1
    apply Suspicion.compare_of_round
    rw [hround, hnext, hlt]

theorem IsTidy.suspicions_eq (htidy : filing.IsTidy) :
    filing.suspicions = filing.rounds.toList.flatMap (·.2.suspicions) := by
  apply List.mergeSort_of_pairwise
  apply (htidy.pairwise_entries (fun _ => List.Subset.refl _)
    fun _ _ hfile => hfile.pairwise_suspicions).imp
  intro first second hlt
  rw [hlt]
  rfl

theorem IsTidy.pairwise_suspicions (htidy : filing.IsTidy) :
    filing.suspicions.Pairwise fun a b => compare a b = .lt := by
  rw [htidy.suspicions_eq]
  exact htidy.pairwise_entries (fun _ => List.Subset.refl _)
    fun _ _ hfile => hfile.pairwise_suspicions

theorem IsTidy.mem_suspicions (htidy : filing.IsTidy) :
    suspicion ∈ filing.suspicions ↔
      suspicion ∈ (filing.fileOf suspicion.round).group suspicion.phase := by
  rw [htidy.suspicions_eq, mem_entries]
  constructor
  · rintro ⟨round, file, hfile, hmem⟩
    obtain ⟨rfl, hgroup⟩ := (htidy.file hfile).mem_suspicions.mp hmem
    rwa [fileOf_of_getElem? hfile]
  · intro hmem
    exact ⟨_, _, getElem?_of_mem hmem, (htidy.files _).mem_suspicions.mpr ⟨rfl, hmem⟩⟩

theorem length_suspicions (filing : Filing) : filing.suspicions.length = filing.size := by
  simp [suspicions, size, totalSize_eq_sum, List.length_flatMap, RoundFile.length_suspicions]

theorem IsTidy.isEmpty_iff (htidy : filing.IsTidy) :
    filing.isEmpty = true ↔ filing.suspicions = [] := by
  rw [isEmpty, Std.ExtTreeMap.isEmpty_iff, htidy.suspicions_eq]
  constructor
  · intro hrounds
    simp [hrounds]
  · intro hnone
    rw [← Std.ExtTreeMap.isEmpty_iff, ← Std.ExtTreeMap.isEmpty_toList]
    cases hlist : filing.rounds.toList with
    | nil => rfl
    | cons entry rest =>
        have hfile : filing.rounds[entry.1]? = some entry.2 := by
          rw [← Std.ExtTreeMap.mem_toList_iff_getElem?_eq_some, hlist]
          exact List.mem_cons_self
        rw [hlist, List.flatMap_cons, List.append_eq_nil_iff] at hnone
        exact absurd hnone.1 (htidy.filled _ _ hfile)

theorem fileOf_store (hadmits : filing.admits suspicion = true) :
    (filing.store suspicion).fileOf round =
      if suspicion.round = round then (filing.fileOf round).store suspicion
      else filing.fileOf round := by
  rw [store, if_pos hadmits, fileOf, Std.ExtTreeMap.getD_insert]
  simp only [Std.LawfulEqOrd.compare_eq_iff_eq]
  split
  · next hround => rw [hround]
  · rfl

theorem fileOf_build : filing.build.1.fileOf round = (filing.fileOf round).feed := by
  rw [build, fileOf, fileOf, Std.ExtTreeMap.getD_eq_getD_getElem?,
    Std.ExtTreeMap.getD_eq_getD_getElem?, Std.ExtTreeMap.getElem?_map]
  cases filing.rounds[round]? <;> rfl

theorem getElem?_collect (low : Round) :
    (filing.collect low).1.rounds[round]? =
      if low ≤ round then filing.rounds[round]? else none := by
  rw [collect, Std.ExtTreeMap.getElem?_filter]
  simp only [Std.ExtTreeMap.getKey_eq, Option.pfilter_eq_filter]
  cases filing.rounds[round]? <;> by_cases hlow : low ≤ round <;> simp [hlow]

theorem fileOf_collect (low : Round) :
    (filing.collect low).1.fileOf round = if low ≤ round then filing.fileOf round else {} := by
  rw [fileOf, fileOf, Std.ExtTreeMap.getD_eq_getD_getElem?, Std.ExtTreeMap.getD_eq_getD_getElem?,
    getElem?_collect]
  split <;> rfl

theorem size_collect (filing : Filing) (low : Round) :
    (filing.collect low).1.size + (filing.collect low).2 = filing.size := by
  have hperm := (List.filter_append_perm (fun entry : Round × RoundFile => decide (low ≤ entry.1))
    filing.rounds.toList).map (·.2.size)
  rw [List.map_append] at hperm
  have hsum := hperm.sum_eq
  rw [List.sum_append] at hsum
  simpa [collect, size, totalSize_eq_sum, Std.ExtTreeMap.toList_filter] using hsum

theorem IsTidy.store (htidy : filing.IsTidy) : (filing.store suspicion).IsTidy := by
  by_cases hadmits : filing.admits suspicion = true
  · have hstored : ((filing.fileOf suspicion.round).store suspicion).IsTidy suspicion.round :=
      (htidy.files suspicion.round).store
    constructor
    · intro round
      rw [fileOf_store hadmits]
      split
      · next hround => rwa [hround] at hstored
      · exact htidy.files round
    · intro round file hfile
      rw [Filing.store, if_pos hadmits, Std.ExtTreeMap.getElem?_insert] at hfile
      split at hfile
      · have hmem := hstored.mem_suspicions.mpr
          ⟨rfl, (RoundFile.mem_group_store suspicion).mpr (Or.inr rfl)⟩
        rw [← Option.some.inj hfile]
        exact List.ne_nil_of_mem hmem
      · exact htidy.filled round file hfile
  · rwa [Filing.store, if_neg hadmits]

theorem IsTidy.build (htidy : filing.IsTidy) : filing.build.1.IsTidy := by
  constructor
  · intro round
    rw [fileOf_build]
    exact ⟨(htidy.files round).filled, (htidy.files round).own⟩
  · intro round file hfile
    rw [Filing.build, Std.ExtTreeMap.getElem?_map] at hfile
    obtain ⟨before, hbefore, rfl⟩ := Option.map_eq_some_iff.mp hfile
    exact htidy.filled round before hbefore

theorem IsTidy.collect (htidy : filing.IsTidy) (low : Round) :
    (filing.collect low).1.IsTidy := by
  constructor
  · intro round
    rw [fileOf_collect]
    split
    · exact htidy.files round
    · exact RoundFile.isTidy_empty round
  · intro round file hfile
    rw [getElem?_collect] at hfile
    split at hfile
    · exact htidy.filled round file hfile
    · contradiction

/-! ## Filing and ledger -/

/-- The filing lays out what the ledger holds and what it has fed. -/
structure LaysOut (filing : Filing) (ledger : Ledger) : Prop where
  tidy : filing.IsTidy
  lowWater : filing.lowWater = ledger.lowWater
  held : ∀ suspicion : Suspicion, suspicion ∈ ledger.held ↔
    suspicion ∈ (filing.fileOf suspicion.round).group suspicion.phase
  fed : ∀ suspicion : Suspicion, suspicion ∈ ledger.fed ↔
    suspicion ∈ (filing.fileOf suspicion.round).fed

variable {ledger : Ledger}

theorem laysOut_empty (view : View) : empty.LaysOut (Ledger.empty view) := by
  constructor
  · exact isTidy_empty
  · rfl
  · simp [empty, Ledger.empty, fileOf, RoundFile.group]
  · simp [empty, Ledger.empty, fileOf]

theorem LaysOut.suspicions_eq (hlays : filing.LaysOut ledger) :
    filing.suspicions = ledger.suspicions := by
  apply OrderedSet.eq_of_mem_iff hlays.tidy.pairwise_suspicions ledger.held.ordered_toList
  intro suspicion
  rw [hlays.tidy.mem_suspicions, ← hlays.held, Std.ExtTreeSet.mem_toList]

theorem LaysOut.size_eq (hlays : filing.LaysOut ledger) : filing.size = ledger.size := by
  rw [← length_suspicions, hlays.suspicions_eq]
  exact ledger.held.length_toList

theorem LaysOut.admits_eq (hlays : filing.LaysOut ledger) :
    filing.admits suspicion = ledger.admits suspicion := by
  rw [admits, hlays.lowWater]
  rfl

theorem LaysOut.isNew_eq (hlays : filing.LaysOut ledger) :
    filing.isNew suspicion = ledger.isNew suspicion := by
  have hheld := hlays.held suspicion
  rw [Std.ExtTreeSet.mem_iff_contains, Std.ExtTreeSet.mem_iff_contains, ← Bool.eq_iff_iff] at hheld
  rw [isNew, hlays.admits_eq, ← hheld]
  rfl

theorem LaysOut.store (hlays : filing.LaysOut ledger) (stored : Suspicion) :
    (filing.store stored).LaysOut (ledger.store stored) := by
  have hledger := ledger.store_eq stored
  constructor
  · exact hlays.tidy.store
  · rw [hledger, Filing.store]
    split <;> exact hlays.lowWater
  · intro suspicion
    rw [Ledger.mem_held_store, hlays.held]
    by_cases hadmits : filing.admits stored = true
    · rw [fileOf_store hadmits, ← hlays.admits_eq, hadmits]
      by_cases hround : stored.round = suspicion.round
      · simp [hround, RoundFile.mem_group_store]
      · have hne : suspicion ≠ stored := fun heq => hround (congrArg Suspicion.round heq.symm)
        simp [hround, hne]
    · rw [Filing.store, if_neg hadmits, ← hlays.admits_eq]
      simp [hadmits]
  · intro suspicion
    rw [hledger]
    change suspicion ∈ ledger.fed ↔ _
    rw [hlays.fed]
    by_cases hadmits : filing.admits stored = true
    · rw [fileOf_store hadmits]
      split <;> rfl
    · rw [Filing.store, if_neg hadmits]

theorem LaysOut.storeAll (hlays : filing.LaysOut ledger) (suspicions : List Suspicion) :
    (filing.storeAll suspicions).1.LaysOut (ledger.storeAll suspicions).1 ∧
      (filing.storeAll suspicions).2 = (ledger.storeAll suspicions).2 := by
  refine List.foldl_rel (r := fun (filed : Filing × Nat) (held : Ledger × Nat) =>
    filed.1.LaysOut held.1 ∧ filed.2 = held.2) ⟨hlays, rfl⟩ ?_
  rintro suspicion - ⟨filing, filed⟩ ⟨ledger, stored⟩ ⟨hlays, rfl⟩
  exact ⟨hlays.store suspicion,
    congrArg (fun isNew => filed + if isNew then 1 else 0) hlays.isNew_eq⟩

/-- A round lays out which of its suspicions are due. -/
theorem LaysOut.mem_due (hlays : filing.LaysOut ledger) :
    suspicion ∈ ledger.due ↔ suspicion ∈ (filing.fileOf suspicion.round).due := by
  have hround : ∀ other : Suspicion, other.round = suspicion.round →
      (other ∈ ledger.suspicions ↔ other ∈ (filing.fileOf suspicion.round).suspicions) := by
    intro other hsame
    rw [Ledger.mem_suspicions, hlays.held, (hlays.tidy.files suspicion.round).mem_suspicions, hsame]
    simp
  rw [Ledger.mem_due_iff, (hlays.tidy.files suspicion.round).mem_due, hround suspicion rfl,
    hlays.fed, Ledger.leads_congr hround]

/-- What the rounds yield one after the other is what is due. -/
theorem LaysOut.build_eq_due (hlays : filing.LaysOut ledger) : filing.build.2 = ledger.due := by
  have hsorted : ledger.due.Pairwise fun a b => compare a b = .lt := by
    rw [Ledger.due_eq_filter]
    exact ledger.held.ordered_toList.filter _
  apply OrderedSet.eq_of_mem_iff (hlays.tidy.pairwise_entries RoundFile.due_subset
    fun _ file _ => file.pairwise_due) hsorted
  intro suspicion
  rw [mem_entries, hlays.mem_due]
  constructor
  · rintro ⟨round, file, hfile, hmem⟩
    obtain ⟨rfl, -⟩ := (hlays.tidy.file hfile).mem_suspicions.mp (file.due_subset hmem)
    rwa [fileOf_of_getElem? hfile]
  · intro hmem
    have hheld := (hlays.tidy.files _).mem_suspicions.mp (RoundFile.due_subset _ hmem)
    exact ⟨_, _, getElem?_of_mem hheld.2, hmem⟩

theorem LaysOut.build (hlays : filing.LaysOut ledger) (settings : LedgerSettings) :
    filing.build.1.LaysOut (ledger.perform settings .build).value := by
  rw [Ledger.value_perform_build_of_due]
  constructor
  · exact hlays.tidy.build
  · exact hlays.lowWater
  · intro suspicion
    rw [fileOf_build]
    exact hlays.held suspicion
  · intro suspicion
    rw [fileOf_build, OrderedSet.mem_insertMany, hlays.mem_due, hlays.fed, RoundFile.feed,
      OrderedSet.mem_insertMany]

theorem LaysOut.collect (hlays : filing.LaysOut ledger) (low : Round) :
    (filing.collect low).1.LaysOut (ledger.collect low).value.1 := by
  constructor
  · exact hlays.tidy.collect low
  · rw [Filing.collect, hlays.lowWater]
    rfl
  · intro suspicion
    rw [Ledger.mem_held_collect, hlays.held, fileOf_collect]
    split
    · next hlow => simp [hlow]
    · next hlow => simp [hlow, RoundFile.group]
  · intro suspicion
    rw [Ledger.mem_fed_collect, hlays.fed, fileOf_collect]
    split
    · next hlow => simp [hlow]
    · next hlow => simp [hlow]

def perform (filing : Filing) : LedgerCall → Filing
  | .store suspicions => (filing.storeAll suspicions).1
  | .build => filing.build.1
  | .decay _ => filing
  | .collect low => (filing.collect low).1

def added (filing : Filing) : LedgerCall → Nat
  | .store suspicions => (filing.storeAll suspicions).2
  | _ => 0

def dropped (filing : Filing) : LedgerCall → Nat
  | .collect low => (filing.collect low).2
  | _ => 0

def run (filing : Filing) (calls : List LedgerCall) : Filing := calls.foldl perform filing

theorem LaysOut.perform (hlays : filing.LaysOut ledger) (settings : LedgerSettings)
    (call : LedgerCall) :
    (filing.perform call).LaysOut (ledger.perform settings call).value := by
  cases call with
  | store suspicions => exact (hlays.storeAll suspicions).1
  | build => exact hlays.build settings
  | decay round =>
      rw [Ledger.value_perform_decay]
      split
      · exact hlays
      · exact ⟨hlays.tidy, hlays.lowWater, hlays.held, hlays.fed⟩
  | collect low => exact hlays.collect low

theorem LaysOut.added_eq (hlays : filing.LaysOut ledger) (call : LedgerCall) :
    filing.added call = ledger.added call := by
  cases call with
  | store suspicions => exact (hlays.storeAll suspicions).2
  | _ => rfl

theorem LaysOut.dropped_eq (hlays : filing.LaysOut ledger) (call : LedgerCall) :
    filing.dropped call = ledger.dropped call := by
  cases call with
  | collect low =>
      have hfiled := filing.size_collect low
      have hheld := ledger.size_perform .standard (.collect low)
      have hbefore := hlays.size_eq
      have hafter := (hlays.collect low).size_eq
      simp only [Ledger.added, Ledger.value_perform_collect] at hheld
      change (filing.collect low).2 = _
      omega
  | _ => rfl

theorem LaysOut.run (hlays : filing.LaysOut ledger) (settings : LedgerSettings)
    (calls : List LedgerCall) :
    (filing.run calls).LaysOut (ledger.run settings calls).value ∧
      LedgerCall.total Filing.perform added filing calls = ledger.addedOver settings calls ∧
      LedgerCall.total Filing.perform dropped filing calls =
        ledger.droppedOver settings calls := by
  induction calls generalizing filing ledger with
  | nil => exact ⟨hlays, rfl, rfl⟩
  | cons call calls ih =>
      obtain ⟨hlast, hadded, hdropped⟩ := ih (hlays.perform settings call)
      refine ⟨hlast, ?_, ?_⟩
      · exact congrArg₂ (· + ·) (hlays.added_eq call) hadded
      · exact congrArg₂ (· + ·) (hlays.dropped_eq call) hdropped

end Filing

/-- In a run from the creation of a ledger or from its last reset, the ledger
holds, in ascending order, what has been delivered and lies below none of the
marks of its collections.  What was new in a delivery is held or has been
dropped.  The layout of the ledger answers all questions alike. -/
theorem Ledger.holds_what_lies_below_no_mark (settings : LedgerSettings) (view : View)
    (start : Ledger) (hstart : start = empty view ∨
      ∃ before : Ledger, start = (before.reset view).value)
    (calls : List LedgerCall) :
    let last := (start.run settings calls).value
    let filing := Filing.empty.run calls
    (last.suspicions.Pairwise fun first second => compare first second = .lt) ∧
      (∀ suspicion, suspicion ∈ last.suspicions ↔
        suspicion ∈ calls.flatMap LedgerCall.delivered ∧
          ∀ low, LedgerCall.collect low ∈ calls → low ≤ suspicion.round) ∧
      last.size = last.suspicions.length ∧
      (last.isEmpty = true ↔ last.suspicions = []) ∧
      start.addedOver settings calls = last.size + start.droppedOver settings calls ∧
      filing.suspicions = last.suspicions ∧ filing.size = last.size ∧
      filing.isEmpty = last.isEmpty ∧
      LedgerCall.total Filing.perform Filing.added .empty calls =
        start.addedOver settings calls ∧
      LedgerCall.total Filing.perform Filing.dropped .empty calls =
        start.droppedOver settings calls := by
  obtain rfl : start = empty view := by
    rcases hstart with hcreated | ⟨before, hreset⟩
    · exact hcreated
    · exact hreset.trans (before.value_reset view)
  intro last filing
  obtain ⟨hlays, hadded, hdropped⟩ := (Filing.laysOut_empty view).run settings calls
  have hempty : last.isEmpty = true ↔ last.suspicions = [] := by
    rw [← List.isEmpty_iff, suspicions, Std.ExtTreeSet.isEmpty_toList, isEmpty]
  refine ⟨last.held.ordered_toList, ?_, last.held.length_toList.symm, hempty, ?_,
    hlays.suspicions_eq, hlays.size_eq, ?_, hadded, hdropped⟩
  · intro suspicion
    rw [mem_suspicions, mem_held_run_iff]
    simp [empty, admits]
  · have hnone : (empty view).size = 0 := rfl
    have hsize := (empty view).size_run settings calls
    rwa [hnone, Nat.add_zero] at hsize
  · rw [Bool.eq_iff_iff, hlays.tidy.isEmpty_iff, hlays.suspicions_eq, hempty]

/-- A round that has been collected stays refused after a lower mark. -/
theorem Ledger.collected_round_stays_refused :
    let write : Suspicion := ⟨1, .write, .slow, 2, 0⟩
    let later : Suspicion := ⟨3, .accept, .slow, 1, 2⟩
    let start := ((empty ⟨7, 2, by decide⟩).reset ⟨4, 1, by decide⟩).value
    let calls : List LedgerCall :=
      [.store [write, later], .build, .collect 2, .collect (-5), .decay 150, .store [write]]
    let last := (start.run .standard calls).value
    (write ∉ last.suspicions ∧ later ∈ last.suspicions) ∧
      last.size = last.suspicions.length ∧ (Filing.empty.run calls).suspicions = last.suspicions := by
  intro write later start calls last
  obtain ⟨-, hmem, hsize, -, -, hfiled, -⟩ := holds_what_lies_below_no_mark .standard
    ⟨4, 1, by decide⟩ start (Or.inr ⟨empty ⟨7, 2, by decide⟩, rfl⟩) calls
  refine ⟨⟨?_, ?_⟩, hsize, hfiled⟩
  · intro hheld
    have hlow := ((hmem write).mp hheld).2 2 (by simp [calls])
    exact absurd hlow (by decide)
  · refine (hmem later).mpr ⟨by simp [calls, LedgerCall.delivered], ?_⟩
    intro low hlow
    simp only [calls, List.mem_cons, LedgerCall.collect.injEq, reduceCtorEq, List.not_mem_nil,
      false_or, or_false] at hlow
    rcases hlow with rfl | rfl <;> decide

end SuspicionMonitor
