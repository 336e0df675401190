import Flod.Lib.CutBack
import Flod.Stage2.SourceList

/-! The cap on the list of attacking sources. Recorded as they happen, sources come newest last
and a cut leaves the newest. Rebuilt from the log they come newest first, and after a cut the
rebuild goes on to older ones, which then stand in the list while newer ones are missing. -/

namespace Flod.Stage2
open Flod.Lib Flod.Lib.CutBack

variable {F : Type} [Arith F]

/-- The calls that record an action, one for each row. -/
def recordAll (sources : Dict String (DdosSource F)) (rows : List (Incident F)) : Dict String (DdosSource F) :=
  rows.foldl (fun d row => recordDdosSource d row.srcIp row.label row.victimIp row.rate row.timestamp) sources

/-- The rows of a log read backwards whose address stands blocked by them. -/
def standingBlocks : List (Incident F) → List String → List (Incident F)
  | [], _ => []
  | row :: rest, seen =>
      if row.srcIp ∈ seen then standingBlocks rest seen
      else if row.label = .blocked then row :: standingBlocks rest (row.srcIp :: seen)
      else standingBlocks rest (row.srcIp :: seen)

/-- The entry a block leaves. -/
def Incident.entry (row : Incident F) : String × DdosSource F :=
  (row.srcIp, ⟨row.victimIp, row.rate, row.timestamp, row.label⟩)

/-- What the cap is to keep, with the actions known so far, newest first: the list is within the
bound, and no address that stands blocked is missing while an older entry is there. -/
structure KeepsNewest (acts : List (Incident F)) (sources : Dict String (DdosSource F)) : Prop where
  bounded : sources.size ≤ ddosSourcesMax
  newest : ∀ ip row, Journal.latest Incident.srcIp ip acts = some row → row.label = .blocked →
    sources.get? ip = none → ∀ e ∈ sources.entries, row.timestamp ≤ e.2.timestamp

section Rebuild

theorem pruneDdosSources_subset (sources : Dict String (DdosSource F)) :
    (pruneDdosSources sources).entries ⊆ sources.entries := by
  unfold pruneDdosSources
  split
  · exact List.Subset.refl _
  · exact keepFirst_subset _ _

theorem pruneDdosSources_size (sources : Dict String (DdosSource F)) :
    (pruneDdosSources sources).size ≤ ddosSourcesMax := by
  unfold pruneDdosSources
  split
  · assumption
  · exact (keepFirst_size_le _ _).trans (by decide)

theorem recordDdosSource_keys (sources : Dict String (DdosSource F)) (row : Incident F) :
    (recordDdosSource sources row.srcIp row.label row.victimIp row.rate row.timestamp).keys ⊆
      row.srcIp :: sources.keys := by
  unfold recordDdosSource
  intro ip inside
  split at inside
  · have before := List.map_subset Prod.fst (pruneDdosSources_subset _) inside
    exact List.mem_cons.mpr ((Dict.mem_keys_set _ _ _ _).mp before)
  · exact List.mem_cons_of_mem _ ((Dict.mem_keys_erase _ _ _).mp inside).2

/-- The rebuild records the blocks that stand and nothing else. -/
theorem restoreSources_eq (rows : List (Incident F)) : ∀ (seen : List String) (sources : Dict String (DdosSource F)),
    sources.keys ⊆ seen → restoreSources rows seen sources = recordAll sources (standingBlocks rows seen) := by
  induction rows with
  | nil =>
    intro seen sources _
    rfl
  | cons row rest ih =>
    intro seen sources known
    unfold restoreSources standingBlocks
    by_cases met : row.srcIp ∈ seen
    · rw [if_pos met, if_pos met]
      exact ih seen sources known
    · rw [if_neg met, if_neg met]
      by_cases blocked : row.label = .blocked
      · rw [if_pos blocked, recordAll, List.foldl_cons]
        apply ih
        intro ip inside
        cases List.mem_cons.mp (recordDdosSource_keys sources row inside) with
        | inl own => exact own ▸ List.mem_cons_self
        | inr before => exact List.mem_cons_of_mem _ (known before)
      · rw [if_neg blocked]
        have nothing : recordDdosSource sources row.srcIp row.label row.victimIp row.rate row.timestamp = sources := by
          rw [recordDdosSource, if_neg blocked]
          exact Dict.erase_of_not_mem (fun inside => met (known inside))
        rw [nothing]
        exact ih _ sources (fun ip inside => List.mem_cons_of_mem _ (known inside))

omit [Arith F] in
theorem latest_cons (ip : String) (row : Incident F) (rest : List (Incident F)) :
    Journal.latest Incident.srcIp ip (row :: rest) =
      if row.srcIp = ip then some row else Journal.latest Incident.srcIp ip rest := by
  unfold Journal.latest
  rw [List.find?_cons]
  by_cases own : row.srcIp = ip <;> simp [own]

omit [Arith F] in
theorem latest_own {ip : String} {row : Incident F} {rows : List (Incident F)}
    (found : Journal.latest Incident.srcIp ip rows = some row) : row.srcIp = ip := by
  simpa using List.find?_some found

omit [Arith F] in
/-- They are the latest rows of their addresses, those that are blocks. -/
theorem mem_standingBlocks (rows : List (Incident F)) : ∀ (seen : List String) (row : Incident F),
    row ∈ standingBlocks rows seen ↔ row.srcIp ∉ seen ∧
      Journal.latest Incident.srcIp row.srcIp rows = some row ∧ row.label = .blocked := by
  induction rows with
  | nil =>
    intro seen row
    simp [standingBlocks, Journal.latest]
  | cons first rest ih =>
    intro seen row
    rw [standingBlocks, latest_cons]
    by_cases met : first.srcIp ∈ seen
    · rw [if_pos met, ih]
      by_cases own : first.srcIp = row.srcIp
      · simp [own ▸ met]
      · rw [if_neg own]
    · rw [if_neg met]
      by_cases own : first.srcIp = row.srcIp
      · have later : row ∉ standingBlocks rest (first.srcIp :: seen) := by
          rw [ih, own]
          exact fun found => found.1 List.mem_cons_self
        rw [if_pos own, Option.some.injEq]
        by_cases blocked : first.label = .blocked
        · rw [if_pos blocked, List.mem_cons]
          apply Iff.intro
          · intro inside
            have same := inside.resolve_right later
            exact ⟨own ▸ met, same.symm, same ▸ blocked⟩
          · intro found
            exact Or.inl found.2.1.symm
        · rw [if_neg blocked]
          apply iff_of_false later
          intro found
          exact blocked (found.2.1 ▸ found.2.2)
      · have other : row ≠ first := fun same => own (same ▸ rfl)
        have inside : row ∈ (if first.label = .blocked then first :: standingBlocks rest (first.srcIp :: seen)
            else standingBlocks rest (first.srcIp :: seen)) ↔ row ∈ standingBlocks rest (first.srcIp :: seen) := by
          split
          · rw [List.mem_cons]
            exact or_iff_right other
          · exact Iff.rfl
        rw [inside, ih, if_neg own, List.mem_cons, not_or]
        simp [Ne.symm own]

omit [Arith F] in
theorem standingBlocks_sublist (rows : List (Incident F)) : ∀ seen : List String,
    (standingBlocks rows seen).Sublist rows := by
  induction rows with
  | nil =>
    intro seen
    exact List.Sublist.refl _
  | cons first rest ih =>
    intro seen
    unfold standingBlocks
    split
    · exact (ih seen).cons first
    · split
      · exact (ih _).cons_cons first
      · exact (ih _).cons first

omit [Arith F] in
theorem standingBlocks_distinct (rows : List (Incident F)) : ∀ seen : List String,
    ((standingBlocks rows seen).map Incident.srcIp).Nodup := by
  induction rows with
  | nil =>
    intro seen
    exact List.nodup_nil
  | cons first rest ih =>
    intro seen
    unfold standingBlocks
    split
    · exact ih seen
    · split
      · rw [List.map_cons, List.nodup_cons]
        refine ⟨fun again => ?_, ih _⟩
        obtain ⟨row, inside, same⟩ := List.mem_map.mp again
        apply ((mem_standingBlocks rest _ row).mp inside).1
        rw [same]
        exact List.mem_cons_self
      · exact ih _

/-- A block of a new address that is no newer than any entry takes its place behind them. -/
theorem recordDdosSource_older {sources : Dict String (DdosSource F)} {row : Incident F}
    (blocked : row.label = .blocked) (fresh : row.srcIp ∉ sources.keys)
    (sorted : (sources.entries ++ [row.entry]).Pairwise (fun a b => b.2.timestamp ≤ a.2.timestamp)) :
    (recordDdosSource sources row.srcIp row.label row.victimIp row.rate row.timestamp).entries =
      add ddosSourcesMax (ddosSourcesMax * 9 / 10) sources.entries row.entry := by
  have entries : (sources.set row.srcIp ⟨row.victimIp, row.rate, row.timestamp, row.label⟩).entries =
      sources.entries ++ [row.entry] := Dict.putIn_of_not_mem _ fresh
  have size : (sources.set row.srcIp ⟨row.victimIp, row.rate, row.timestamp, row.label⟩).size =
      sources.entries.length + 1 := by
    rw [Dict.size, entries, List.length_append]
    rfl
  rw [recordDdosSource, if_pos blocked, pruneDdosSources, size, add]
  by_cases room : sources.entries.length < ddosSourcesMax
  · rw [if_pos (by omega), if_pos room, entries]
  · rw [if_neg (by omega), if_neg room, keepFirst_of_pairwise, entries]
    rw [entries]
    exact sorted.imp (fun before => decide_eq_true before)

theorem recordAll_older (rows : List (Incident F)) : ∀ (before : List (Incident F)) (sources : Dict String (DdosSource F)),
    (∀ row ∈ rows, row.label = .blocked) → ((before ++ rows).map Incident.srcIp).Nodup →
    (before ++ rows).Pairwise (fun a b => b.timestamp ≤ a.timestamp) →
    sources.entries.Sublist (before.map Incident.entry) →
      (recordAll sources rows).entries =
        (rows.map Incident.entry).foldl (add ddosSourcesMax (ddosSourcesMax * 9 / 10)) sources.entries := by
  induction rows with
  | nil =>
    intro before sources _ _ _ _
    rfl
  | cons row rest ih =>
    intro before sources blocks distinct sorted within
    have longer : before ++ row :: rest = (before ++ [row]) ++ rest := by simp
    have part : (sources.entries ++ [row.entry]).Sublist ((before ++ [row]).map Incident.entry) := by
      rw [List.map_append]
      exact within.append_right _
    have fresh : row.srcIp ∉ sources.keys := by
      intro inside
      have known : row.srcIp ∈ before.map Incident.srcIp := by
        have mapped := (within.map Prod.fst).subset inside
        rw [List.map_map] at mapped
        exact mapped
      rw [List.map_append, List.nodup_append] at distinct
      exact distinct.2.2 _ known _ List.mem_cons_self rfl
    have ordered : ((before ++ [row]).map Incident.entry).Pairwise
        (fun a b => b.2.timestamp ≤ a.2.timestamp) := by
      rw [List.pairwise_map]
      rw [longer] at sorted
      exact sorted.sublist (List.sublist_append_left _ _)
    have step := recordDdosSource_older (blocks row List.mem_cons_self) fresh (ordered.sublist part)
    rw [recordAll, List.foldl_cons, List.map_cons, List.foldl_cons, ← step]
    apply ih (before ++ [row]) _ (fun r inside => blocks r (List.mem_cons_of_mem row inside)) (longer ▸ distinct)
      (longer ▸ sorted)
    rw [step]
    exact (add_sublist _ _ _ _).trans part

/-- The list after the rebuild: all standing blocks while there are few enough, and else the newest
and some of the oldest of them. -/
theorem loadDdosSources_entries {logs : List (Incident F)}
    (sorted : (restoredRows logs).Pairwise (fun a b => b.timestamp ≤ a.timestamp)) :
    (loadDdosSources logs).entries =
      (held ddosSourcesMax (ddosSourcesMax * 9 / 10) (standingBlocks (restoredRows logs) [])).map Incident.entry := by
  have part := standingBlocks_sublist (restoredRows logs) []
  rw [loadDdosSources, restoreSources_eq _ _ _ (List.nil_subset _),
    recordAll_older _ [] Dict.empty _ (standingBlocks_distinct _ _) (sorted.sublist part) (List.Sublist.refl _),
    show (Dict.empty : Dict String (DdosSource F)).entries = [] from rfl, foldl_add (by decide), held_map]
  intro row inside
  exact ((mem_standingBlocks _ _ row).mp inside).2.2

omit [Arith F] in
theorem mem_standingBlocks_of_latest {rows : List (Incident F)} {ip : String} {row : Incident F}
    (found : Journal.latest Incident.srcIp ip rows = some row) (blocked : row.label = .blocked) :
    row ∈ standingBlocks rows [] := by
  have own := latest_own found
  exact (mem_standingBlocks rows [] row).mpr ⟨List.not_mem_nil, own ▸ found, blocked⟩

end Rebuild

section Law

variable {logs : List (Incident F)}

/-- The standing blocks the rebuild meets never pass the cap, or the last of them has just made a
cut, or those cut off are no newer than the last. -/
def CutInOrder (blocks : List (Incident F)) : Prop :=
  blocks.length ≤ 4096 ∨ (blocks.length - 4097) % 411 = 0 ∨
    ∃ cut last, blocks[3686]? = some cut ∧ blocks.getLast? = some last ∧ cut.timestamp ≤ last.timestamp

/-- What the list says, apart from its size: every entry is the latest block of its address. -/
structure ListsLatest (acts : List (Incident F)) (sources : Dict String (DdosSource F)) : Prop where
  entries : ∀ ip e, sources.get? ip = some e → ∃ row, Journal.latest Incident.srcIp ip acts = some row ∧
    row.label = .blocked ∧ e.timestamp = row.timestamp
  newest : ∀ ip row, Journal.latest Incident.srcIp ip acts = some row → row.label = .blocked →
    sources.get? ip = none → ∀ e ∈ sources.entries, row.timestamp ≤ e.2.timestamp

/-- The blocks whose entries the rebuild leaves. -/
def heldBlocks (rows : List (Incident F)) : List (Incident F) :=
  held ddosSourcesMax (ddosSourcesMax * 9 / 10) (standingBlocks rows [])

omit [Arith F] in
theorem heldBlocks_subset (rows : List (Incident F)) : heldBlocks rows ⊆ standingBlocks rows [] :=
  (held_sublist (by decide) _).subset

/-- An address is missing after the rebuild where its block was cut off. -/
theorem get?_loadDdosSources_none (sorted : (restoredRows logs).Pairwise (fun a b => b.timestamp ≤ a.timestamp))
    {row : Incident F} (stands : row ∈ standingBlocks (restoredRows logs) []) :
    (loadDdosSources logs).get? row.srcIp = none ↔ row ∉ heldBlocks (restoredRows logs) := by
  have keys : (loadDdosSources logs).keys = (heldBlocks (restoredRows logs)).map Incident.srcIp := by
    rw [Dict.keys, loadDdosSources_entries sorted, List.map_map]
    rfl
  rw [← Option.not_isSome_iff_eq_none, ← Dict.mem_keys_iff, keys]
  apply not_congr
  apply Iff.intro
  · intro listed
    obtain ⟨other, inside, same⟩ := List.mem_map.mp listed
    have equal := List.inj_on_of_nodup_map (standingBlocks_distinct (restoredRows logs) [])
      (heldBlocks_subset _ inside) stands same
    exact equal ▸ inside
  · exact List.mem_map_of_mem

theorem loadDdosSources_newest_iff (sorted : (restoredRows logs).Pairwise (fun a b => b.timestamp ≤ a.timestamp)) :
    (∀ ip row, Journal.latest Incident.srcIp ip (restoredRows logs) = some row → row.label = .blocked →
      (loadDdosSources logs).get? ip = none → ∀ e ∈ (loadDdosSources logs).entries,
        row.timestamp ≤ e.2.timestamp) ↔
      CutInOrder (standingBlocks (restoredRows logs) []) := by
  have part := standingBlocks_sublist (restoredRows logs) []
  have distinct := List.Nodup.of_map Incident.srcIp (standingBlocks_distinct (restoredRows logs) [])
  have best := keepsBest_held_iff Incident.timestamp (by decide : ddosSourcesMax * 9 / 10 ≤ ddosSourcesMax)
    distinct (sorted.sublist part)
  have settled : CutInOrder (standingBlocks (restoredRows logs) []) ↔
      KeepsBest Incident.timestamp (standingBlocks (restoredRows logs) []) (heldBlocks (restoredRows logs)) :=
    best.symm
  rw [settled, loadDdosSources_entries sorted]
  apply Iff.intro
  · intro newest row stands out other inside
    obtain ⟨-, found, blocked⟩ := (mem_standingBlocks _ _ row).mp stands
    exact newest row.srcIp row found blocked ((get?_loadDdosSources_none sorted stands).mpr out) other.entry
      (List.mem_map_of_mem inside)
  · intro best ip row found blocked missing e listed
    have stands := mem_standingBlocks_of_latest found blocked
    obtain ⟨other, inside, rfl⟩ := List.mem_map.mp listed
    rw [← latest_own found] at missing
    exact best row stands ((get?_loadDdosSources_none sorted stands).mp missing) other inside

theorem loadDdosSources_entry (sorted : (restoredRows logs).Pairwise (fun a b => b.timestamp ≤ a.timestamp))
    {ip : String} {e : DdosSource F} (listed : (loadDdosSources logs).get? ip = some e) :
    ∃ row, Journal.latest Incident.srcIp ip (restoredRows logs) = some row ∧ row.label = .blocked ∧
      e.timestamp = row.timestamp := by
  rw [Dict.get?_eq_some_iff, loadDdosSources_entries sorted] at listed
  obtain ⟨row, inside, same⟩ := List.mem_map.mp listed
  obtain ⟨-, found, blocked⟩ := (mem_standingBlocks _ _ row).mp (heldBlocks_subset _ inside)
  obtain ⟨rfl, rfl⟩ := Prod.mk.inj same
  exact ⟨row, found, blocked, rfl⟩

theorem recordDdosSource_size {sources : Dict String (DdosSource F)} (row : Incident F)
    (within : sources.size ≤ ddosSourcesMax) :
    (recordDdosSource sources row.srcIp row.label row.victimIp row.rate row.timestamp).size ≤ ddosSourcesMax := by
  unfold recordDdosSource
  split
  · exact pruneDdosSources_size _
  · exact (Dict.size_erase_le _ _).trans within

theorem recordAll_size (rows : List (Incident F)) : ∀ sources : Dict String (DdosSource F),
    sources.size ≤ ddosSourcesMax → (recordAll sources rows).size ≤ ddosSourcesMax := by
  induction rows with
  | nil =>
    intro sources within
    exact within
  | cons row rest ih =>
    intro sources within
    exact ih _ (recordDdosSource_size row within)

theorem loadDdosSources_size (logs : List (Incident F)) : (loadDdosSources logs).size ≤ ddosSourcesMax := by
  rw [loadDdosSources, restoreSources_eq _ _ _ (List.nil_subset _)]
  exact recordAll_size _ _ (Nat.zero_le _)

section Live

variable {acts : List (Incident F)} {sources : Dict String (DdosSource F)}

omit [Arith F] in
theorem latest_mem {ip : String} {row : Incident F} (found : Journal.latest Incident.srcIp ip acts = some row) :
    row ∈ acts := List.mem_of_find?_eq_some found

theorem ListsLatest.erase (holds : ListsLatest acts sources) {row : Incident F} (lesser : row.label ≠ .blocked) :
    ListsLatest (row :: acts) (sources.erase row.srcIp) where
  entries := by
    intro ip e listed
    rw [Dict.get?_erase] at listed
    rw [latest_cons]
    split at listed
    · cases listed
    · rename_i other
      rw [if_neg other]
      exact holds.entries ip e listed
  newest := by
    intro ip latest found blocked missing e inside
    rw [latest_cons] at found
    rw [Dict.get?_erase] at missing
    split at found
    · cases found
      exact absurd blocked lesser
    · rename_i other
      rw [if_neg other] at missing
      exact holds.newest ip latest found blocked missing e (List.mem_of_mem_filter inside)

theorem ListsLatest.set (holds : ListsLatest acts sources) {row : Incident F} (blocked : row.label = .blocked)
    (later : ∀ act ∈ acts, act.timestamp ≤ row.timestamp) :
    ListsLatest (row :: acts) (sources.set row.srcIp ⟨row.victimIp, row.rate, row.timestamp, row.label⟩) where
  entries := by
    intro ip e listed
    rw [Dict.get?_set] at listed
    rw [latest_cons]
    split at listed
    · rename_i own
      cases listed
      rw [if_pos own]
      exact ⟨row, rfl, blocked, rfl⟩
    · rename_i other
      rw [if_neg other]
      exact holds.entries ip e listed
  newest := by
    intro ip latest found stands missing e inside
    rw [latest_cons] at found
    rw [Dict.get?_set] at missing
    split at found
    · rename_i own
      rw [if_pos own] at missing
      cases missing
    · rename_i other
      rw [if_neg other] at missing
      cases (Dict.mem_set_iff _ _ _ _).mp inside with
      | inl own =>
        rw [own]
        exact later latest (latest_mem found)
      | inr before => exact holds.newest ip latest found stands missing e before.1

theorem ListsLatest.prune (holds : ListsLatest acts sources) : ListsLatest acts (pruneDdosSources sources) := by
  unfold pruneDdosSources
  split
  · exact holds
  · refine ⟨fun ip e listed => ?_, fun ip row found blocked missing e inside => ?_⟩
    · rw [Dict.get?_eq_some_iff] at listed
      exact holds.entries ip e ((Dict.get?_eq_some_iff _ _ _).mpr (keepFirst_subset _ _ listed))
    · cases was : sources.get? ip with
      | none => exact holds.newest ip row found blocked was e (keepFirst_subset _ _ inside)
      | some lost =>
        obtain ⟨same, found', -, time⟩ := holds.entries ip lost was
        rw [found, Option.some.injEq] at found'
        have out : (ip, lost) ∉ (sources.keepFirst
            (fun a b => decide (b.2.timestamp ≤ a.2.timestamp)) (ddosSourcesMax * 9 / 10)).entries := by
          intro kept
          rw [(Dict.get?_eq_some_iff _ _ _).mpr kept] at missing
          cases missing
        have best := keepFirst_best
          (fun a b c first second => decide_eq_true ((of_decide_eq_true second).trans (of_decide_eq_true first)))
          (fun a b => by simpa using le_total b.2.timestamp a.2.timestamp) sources _
          ((Dict.get?_eq_some_iff _ _ _).mp was) out inside
        rw [found', ← time]
        exact of_decide_eq_true best

theorem ListsLatest.record (holds : ListsLatest acts sources) (row : Incident F)
    (later : ∀ act ∈ acts, act.timestamp ≤ row.timestamp) :
    ListsLatest (row :: acts) (recordDdosSource sources row.srcIp row.label row.victimIp row.rate row.timestamp) := by
  unfold recordDdosSource
  split
  · rename_i blocked
    exact (holds.set blocked later).prune
  · rename_i lesser
    exact holds.erase lesser

theorem ListsLatest.recordAll (rows : List (Incident F)) :
    ∀ {acts : List (Incident F)} {sources : Dict String (DdosSource F)}, ListsLatest acts sources →
      (acts.reverse ++ rows).Pairwise (fun a b => a.timestamp ≤ b.timestamp) →
      ListsLatest (rows.reverse ++ acts) (recordAll sources rows) := by
  induction rows with
  | nil =>
    intro acts sources holds _
    exact holds
  | cons row rest ih =>
    intro acts sources holds ordered
    have later : ∀ act ∈ acts, act.timestamp ≤ row.timestamp := fun act inside =>
      (List.pairwise_append.mp ordered).2.2 act (List.mem_reverse.mpr inside) row List.mem_cons_self
    have again := ih (holds.record row later) (by simpa using ordered)
    rw [List.reverse_cons, List.append_assoc]
    exact again

end Live

omit [Arith F] in
theorem restoredRows_sublist (logs : List (Incident F)) : (restoredRows logs).reverse.Sublist logs := by
  have part : (restoredRows logs).Sublist logs.reverse := by
    apply (List.take_sublist _ _).trans
    rw [enforcementRows, List.reverse_sublist]
    exact List.filter_sublist
  have back := List.reverse_sublist.mpr part
  rw [List.reverse_reverse] at back
  exact back

theorem restoredRows_sorted (ordered : logs.Pairwise (fun a b => a.timestamp ≤ b.timestamp)) :
    (restoredRows logs).Pairwise (fun a b => b.timestamp ≤ a.timestamp) :=
  List.pairwise_reverse.mp (ordered.sublist (restoredRows_sublist logs))

/-- The list keeps the newest blocks, after the rebuild and through every run of live actions that
follows it, exactly where the rebuild leaves off at a settled point. -/
theorem sources_keep_newest_iff (logs : List (Incident F))
    (ordered : logs.Pairwise (fun a b => a.timestamp ≤ b.timestamp)) :
    (∀ live, (logs ++ live).Pairwise (fun a b => a.timestamp ≤ b.timestamp) →
      KeepsNewest (live.reverse ++ restoredRows logs) (recordAll (loadDdosSources logs) live)) ↔
      CutInOrder (standingBlocks (restoredRows logs) []) := by
  have sorted := restoredRows_sorted ordered
  apply Iff.intro
  · intro always
    have start := always [] (by rw [List.append_nil]; exact ordered)
    exact (loadDdosSources_newest_iff sorted).mp start.newest
  · intro settled live times
    have holds : ListsLatest (restoredRows logs) (loadDdosSources logs) :=
      ⟨fun ip e => loadDdosSources_entry sorted, (loadDdosSources_newest_iff sorted).mpr settled⟩
    have run := holds.recordAll live (times.sublist ((restoredRows_sublist logs).append_right live))
    exact ⟨recordAll_size live _ (loadDdosSources_size logs), run.newest⟩

/-- The last group of an address, as four digits. -/
def group (i : Nat) : List Char :=
  [Nat.digitChar (i / 4096 % 16), Nat.digitChar (i / 256 % 16), Nat.digitChar (i / 16 % 16), Nat.digitChar (i % 16)]

/-- A block of one of many addresses, at its own time. -/
def blockOf (i : Nat) : Incident ℚ :=
  ⟨i, "2001:db8::" ++ String.ofList (group i), .blocked, "2001:db8::1", none, none⟩

/-- A log of that many blocks, a second apart. -/
def crowd (n : Nat) : List (Incident ℚ) := (List.range n).map blockOf

theorem digitChar_injective {a b : Nat} (small : a < 16) (smallToo : b < 16)
    (same : Nat.digitChar a = Nat.digitChar b) : a = b := by
  have all : ∀ a b : Fin 16, Nat.digitChar a.val = Nat.digitChar b.val → a = b := by decide
  exact congrArg Fin.val (all ⟨a, small⟩ ⟨b, smallToo⟩ same)

theorem blockOf_injective {i j : Nat} (small : i < 65536) (smallToo : j < 65536)
    (same : (blockOf i).srcIp = (blockOf j).srcIp) : i = j := by
  have groups : group i = group j := String.ofList_injective ((String.append_right_inj _).mp same)
  simp only [group, List.cons.injEq, and_true] at groups
  have first := digitChar_injective (by omega) (by omega) groups.1
  have second := digitChar_injective (by omega) (by omega) groups.2.1
  have third := digitChar_injective (by omega) (by omega) groups.2.2.1
  have fourth := digitChar_injective (by omega) (by omega) groups.2.2.2
  omega

theorem crowd_distinct {n : Nat} (small : n ≤ 65536) : ((crowd n).map Incident.srcIp).Nodup := by
  rw [crowd, List.map_map]
  apply List.Nodup.map_on _ List.nodup_range
  intro i first j second same
  rw [List.mem_range] at first second
  exact blockOf_injective (by omega) (by omega) same

theorem crowd_ordered (n : Nat) : (crowd n).Pairwise (fun a b => a.timestamp ≤ b.timestamp) := by
  rw [crowd, List.pairwise_map]
  apply List.pairwise_lt_range.imp
  intro a b before
  exact Nat.cast_le.mpr before.le

theorem three_blocks_keep_newest : CutInOrder (standingBlocks (restoredRows (crowd 3)) []) ∧
    KeepsNewest ([blockOf 7].reverse ++ restoredRows (crowd 3)) (recordAll (loadDdosSources (crowd 3)) [blockOf 7]) := by
  have settled : CutInOrder (standingBlocks (restoredRows (crowd 3)) []) := Or.inl (by decide +kernel)
  exact ⟨settled, (sources_keep_newest_iff (crowd 3) (crowd_ordered 3)).mpr settled [blockOf 7] (by decide +kernel)⟩

omit [Arith F] in
theorem standingBlocks_all (rows : List (Incident F)) : ∀ seen : List String, (∀ row ∈ rows, row.label = .blocked) →
    (rows.map Incident.srcIp).Nodup → (∀ row ∈ rows, row.srcIp ∉ seen) → standingBlocks rows seen = rows := by
  induction rows with
  | nil =>
    intro seen _ _ _
    rfl
  | cons row rest ih =>
    intro seen blocks distinct fresh
    have apart := List.nodup_cons.mp distinct
    rw [standingBlocks, if_neg (fresh row List.mem_cons_self), if_pos (blocks row List.mem_cons_self)]
    congr 1
    apply ih _ (fun r inside => blocks r (List.mem_cons_of_mem row inside)) apart.2
    intro r inside met
    cases List.mem_cons.mp met with
    | inl same => exact apart.1 (same ▸ List.mem_map_of_mem inside)
    | inr known => exact fresh r (List.mem_cons_of_mem row inside) known

theorem restoredRows_crowd {n : Nat} (few : n ≤ ddosSourcesMax * 4) : restoredRows (crowd n) = (crowd n).reverse := by
  have all : (crowd n).filter (fun row => enforces row.label) = crowd n := by
    apply List.filter_eq_self.mpr
    intro row inside
    obtain ⟨i, _, rfl⟩ := List.mem_map.mp inside
    rfl
  rw [restoredRows, enforcementRows, all]
  apply List.take_of_length_le
  rw [List.length_reverse, crowd, List.length_map, List.length_range]
  exact few

theorem standingBlocks_crowd {n : Nat} (few : n ≤ ddosSourcesMax * 4) :
    standingBlocks (restoredRows (crowd n)) [] = (crowd n).reverse := by
  have small : n ≤ 65536 := few.trans (by decide)
  rw [restoredRows_crowd few]
  apply standingBlocks_all
  · intro row inside
    obtain ⟨i, _, rfl⟩ := List.mem_map.mp (List.mem_reverse.mp inside)
    rfl
  · rw [List.map_reverse, List.nodup_reverse]
    exact crowd_distinct small
  · intro row _ inside
    cases inside

theorem mem_held_range {i : Nat} : i ∈ held 4096 3686 (List.range 4098).reverse ↔ i < 4098 ∧ (412 ≤ i ∨ i = 0) := by
  have cut : held 4096 3686 (List.range 4098).reverse =
      ((List.range 4098).drop 412).reverse ++ ((List.range 4098).take 1).reverse := by
    rw [held, if_neg (by simp), List.length_reverse, List.length_range, List.take_reverse, List.drop_reverse,
      List.length_range]
    rfl
  rw [cut, List.mem_append, List.mem_reverse, List.mem_reverse, List.take_range, List.mem_range,
    List.range_eq_range', List.drop_range', List.mem_range'_1]
  omega

/-- The rebuild of a log two blocks longer than the list: all but the oldest 412, and the oldest. -/
theorem heldBlocks_crowd (i : Nat) (known : i < 4098) :
    blockOf i ∈ heldBlocks (restoredRows (crowd 4098)) ↔ 412 ≤ i ∨ i = 0 := by
  have rows : heldBlocks (restoredRows (crowd 4098)) = (held 4096 3686 (List.range 4098).reverse).map blockOf := by
    rw [heldBlocks, standingBlocks_crowd (by decide), crowd, ← List.map_reverse, held_map]
    rfl
  rw [rows, List.mem_map]
  apply Iff.intro
  · intro listed
    obtain ⟨j, inside, same⟩ := listed
    have bound := mem_held_range.mp inside
    have equal : j = i := blockOf_injective (by omega) (by omega) (congrArg Incident.srcIp same)
    exact equal ▸ bound.2
  · intro kept
    exact ⟨i, mem_held_range.mpr ⟨known, kept⟩, rfl⟩

/-- Two blocks more than the list holds: the newest of those cut off is missing, and the oldest of
all is there. -/
theorem crowd_cut_wrong :
    Journal.latest Incident.srcIp (blockOf 411).srcIp (restoredRows (crowd 4098)) = some (blockOf 411) ∧
    (loadDdosSources (crowd 4098)).get? (blockOf 411).srcIp = none ∧
    (loadDdosSources (crowd 4098)).get? (blockOf 0).srcIp = some (blockOf 0).entry.2 ∧
    (blockOf 0).timestamp < (blockOf 411).timestamp := by
  have sorted := restoredRows_sorted (crowd_ordered 4098)
  have stands : blockOf 411 ∈ standingBlocks (restoredRows (crowd 4098)) [] := by
    rw [standingBlocks_crowd (by decide), List.mem_reverse]
    exact List.mem_map_of_mem (List.mem_range.mpr (by decide))
  refine ⟨((mem_standingBlocks _ _ _).mp stands).2.1, ?_, ?_, by decide +kernel⟩
  · rw [get?_loadDdosSources_none sorted stands, heldBlocks_crowd 411 (by decide)]
    decide
  · rw [Dict.get?_eq_some_iff, loadDdosSources_entries sorted]
    exact List.mem_map_of_mem ((heldBlocks_crowd 0 (by decide)).mpr (Or.inr rfl))

end Law

end Flod.Stage2
