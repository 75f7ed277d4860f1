import Mathlib.Data.String.Basic
import ProfileBrowser.Json.Basic
/-!
# Members in order

The members of an object that is built by `insert` have ascending keys (`Members.Ascending`), and so they
are determined by the values of their keys (`Members.Ascending.ext`). A value whose objects are so at
every depth is `Ordered`; `sorted` leaves it as it is (`Ordered.sorted_eq`). Putting the members of an
object in one after the other gives what `sorted` makes of it (`foldl_insert_eq`).
-/

namespace ProfileBrowser.Json

namespace Members

variable {key k : String} {v : Json} {ms ns : Members}

/-! ### Insertion -/

theorem get?_cons (key k : String) (v : Json) (ms : Members) :
    get? key ((k, v) :: ms) = if key = k then some v else get? key ms := rfl

/-- **What `insert` does to the value of a key.** -/
theorem get?_insert (key k : String) (v : Json) (ms : Members) :
    get? key (insert k v ms) = if key = k then some v else get? key ms := by
  fun_induction insert k v ms with
  | case1 => rfl
  | case2 => rfl
  | case3 w rest hlt =>
    rw [get?_cons, get?_cons]
    split_ifs <;> rfl
  | case4 j w rest hlt hne ih =>
    rw [get?_cons, get?_cons, ih]
    by_cases hj : key = j
    · have hk : ¬ key = k := fun h => hne (h ▸ hj)
      rw [if_pos hj, if_neg hk, if_pos hj]
    · rw [if_neg hj, if_neg hj]

theorem get?_insert_of_ne (h : key ≠ k) (v : Json) (ms : Members) :
    get? key (insert k v ms) = get? key ms := by
  rw [get?_insert, if_neg h]

/-- Members of different keys may be put in in either order. -/
theorem insert_comm (h : key ≠ k) (v w : Json) (ms : Members) :
    insert key v (insert k w ms) = insert k w (insert key v ms) := by
  induction ms with
  | nil =>
    simp only [insert]
    rcases lt_or_gt_of_ne h with hlt | hgt
    · rw [if_pos hlt, if_neg hlt.not_gt, if_neg h.symm]
    · rw [if_neg hgt.not_gt, if_neg h, if_pos hgt]
  | cons m ms ih =>
    obtain ⟨j, u⟩ := m
    grind [insert]

theorem mem_insert {m : String × Json} (h : m ∈ insert k v ms) : m = (k, v) ∨ m ∈ ms := by
  fun_induction insert k v ms with
  | case1 => exact .inl (List.mem_singleton.mp h)
  | case2 => exact List.mem_cons.mp h
  | case3 w rest hlt => exact (List.mem_cons.mp h).imp_right (List.mem_cons_of_mem _)
  | case4 j w rest hlt hne ih =>
    rcases List.mem_cons.mp h with rfl | h
    · exact .inr List.mem_cons_self
    · exact (ih h).imp_right (List.mem_cons_of_mem _)

/-- A key in front of all others goes to the front. -/
theorem insert_of_lt (h : ∀ m ∈ ms, k < m.1) : insert k v ms = (k, v) :: ms := by
  cases ms with
  | nil => rfl
  | cons m ms => exact if_pos (h m List.mem_cons_self)

/-- One behind all others goes to the end. -/
theorem insert_of_gt (h : ∀ m ∈ ms, m.1 < k) : insert k v ms = ms ++ [(k, v)] := by
  induction ms with
  | nil => rfl
  | cons m ms ih =>
    have hgt := h m List.mem_cons_self
    have hrest := ih fun n hn => h n (List.mem_cons_of_mem _ hn)
    rw [insert, if_neg hgt.not_gt, if_neg hgt.ne', hrest, List.cons_append]

/-- A key that has no value is not among the members. -/
theorem get?_eq_none_iff : get? key ms = none ↔ ∀ m ∈ ms, m.1 ≠ key := by
  induction ms with
  | nil => simp [get?]
  | cons m ms ih =>
    rw [get?_cons, List.forall_mem_cons]
    split_ifs with h
    · simp [h]
    · rw [ih]
      exact ⟨fun hms => ⟨fun heq => h heq.symm, hms⟩, fun hms => hms.2⟩

theorem mem_of_get? (h : get? key ms = some v) : (key, v) ∈ ms := by
  induction ms with
  | nil => cases h
  | cons m ms ih =>
    rw [get?_cons] at h
    split_ifs at h with hkey
    · cases h
      exact hkey ▸ List.mem_cons_self
    · exact List.mem_cons_of_mem _ (ih h)

/-! ### Ascending keys -/

/-- The keys are in ascending order, each once. -/
def Ascending (ms : Members) : Prop := ms.Pairwise (·.1 < ·.1)

instance : DecidablePred Ascending := fun ms =>
  inferInstanceAs (Decidable (ms.Pairwise (·.1 < ·.1)))

theorem ascending_nil : Ascending [] := .nil

theorem ascending_cons {m : String × Json} :
    Ascending (m :: ms) ↔ (∀ n ∈ ms, m.1 < n.1) ∧ ms.Ascending := List.pairwise_cons

/-- **Insertion keeps the keys ascending.** -/
theorem Ascending.insert (h : ms.Ascending) (k : String) (v : Json) : (insert k v ms).Ascending := by
  fun_induction Members.insert k v ms with
  | case1 => exact List.pairwise_singleton _ _
  | case2 j w rest hlt =>
    refine ascending_cons.mpr ⟨fun n hn => ?_, h⟩
    rcases List.mem_cons.mp hn with rfl | hn
    · exact hlt
    · exact lt_trans hlt ((ascending_cons.mp h).1 n hn)
  | case3 w rest hlt =>
    obtain ⟨hfirst, hrest⟩ := ascending_cons.mp h
    exact ascending_cons.mpr ⟨hfirst, hrest⟩
  | case4 j w rest hlt hne ih =>
    obtain ⟨hfirst, hrest⟩ := ascending_cons.mp h
    refine ascending_cons.mpr ⟨fun n hn => ?_, ih hrest⟩
    rcases mem_insert hn with rfl | hn
    · exact lt_of_le_of_ne (not_lt.mp hlt) (Ne.symm hne)
    · exact hfirst n hn

theorem Ascending.get?_tail {m : String × Json} (h : Ascending (m :: ms)) : get? m.1 ms = none :=
  get?_eq_none_iff.mpr fun n hn => ((ascending_cons.mp h).1 n hn).ne'

/-- The first of ascending keys is below every key that has a value. -/
theorem Ascending.le_of_isSome {m : String × Json} (h : Ascending (m :: ms))
    (hkey : (get? key (m :: ms)).isSome) : m.1 ≤ key := by
  rw [get?_cons] at hkey
  split_ifs at hkey with heq
  · exact heq.ge
  · by_contra hlt
    have hnone : get? key ms = none := get?_eq_none_iff.mpr fun n hn =>
      (lt_trans (not_le.mp hlt) ((ascending_cons.mp h).1 n hn)).ne'
    rw [hnone] at hkey
    exact Bool.false_ne_true hkey

/-- **Members with ascending keys are determined by the values of the keys.** -/
theorem Ascending.ext (hms : ms.Ascending) (hns : ns.Ascending) (h : ∀ key, get? key ms = get? key ns) :
    ms = ns := by
  induction ms generalizing ns with
  | nil =>
    cases ns with
    | nil => rfl
    | cons n ns =>
      have hfirst := h n.1
      rw [get?_cons, if_pos rfl] at hfirst
      cases hfirst
  | cons m ms ih =>
    cases ns with
    | nil =>
      have hfirst := h m.1
      rw [get?_cons, if_pos rfl] at hfirst
      cases hfirst
    | cons n ns =>
      have hkey : m.1 = n.1 := by
        refine le_antisymm (hms.le_of_isSome ?_) (hns.le_of_isSome ?_)
        · rw [h, get?_cons, if_pos rfl]
          rfl
        · rw [← h, get?_cons, if_pos rfl]
          rfl
      have hvalue : m.2 = n.2 := by
        have hfirst := h m.1
        rw [get?_cons, if_pos rfl, get?_cons, if_pos hkey] at hfirst
        exact Option.some.inj hfirst
      have htail : ∀ key, get? key ms = get? key ns := by
        intro key
        by_cases heq : key = m.1
        · rw [heq, hms.get?_tail, hkey, hns.get?_tail]
        · have hnext := h key
          rwa [get?_cons, if_neg heq, get?_cons, if_neg (hkey ▸ heq)] at hnext
      rw [Prod.ext hkey hvalue, ih (ascending_cons.mp hms).2 (ascending_cons.mp hns).2 htail]

/-- Where a key stands among members with ascending keys, and where its member is put. -/
theorem Ascending.exists_split (h : ms.Ascending) (hv : get? key ms = some v) :
    ∃ before after, ms = before ++ (key, v) :: after ∧ (∀ m ∈ after, m.1 ≠ key) ∧
      ∀ w, Members.insert key w ms = before ++ (key, w) :: after := by
  induction ms with
  | nil => cases hv
  | cons m ms ih =>
    obtain ⟨hfirst, hrest⟩ := ascending_cons.mp h
    by_cases hkey : key = m.1
    · subst hkey
      rw [get?_cons, if_pos rfl] at hv
      cases hv
      refine ⟨[], ms, rfl, fun n hn => (hfirst n hn).ne', fun w => ?_⟩
      rw [Members.insert, if_neg (lt_irrefl _), if_pos rfl, List.nil_append]
    · rw [get?_cons, if_neg hkey] at hv
      obtain ⟨before, after, rfl, hafter, hinsert⟩ := ih hrest hv
      have hlt : m.1 < key := hfirst _ (List.mem_append_right _ List.mem_cons_self)
      refine ⟨m :: before, after, rfl, hafter, fun w => ?_⟩
      rw [Members.insert, if_neg hlt.not_gt, if_neg hkey, hinsert, List.cons_append]

end Members

open Members

/-! ### Sorting -/

theorem sortedItems_eq_map (items : List Json) : sortedItems items = items.map sorted := by
  induction items with
  | nil => rfl
  | cons v rest ih => rw [sortedItems, ih, List.map_cons]

theorem sortedMembers_cons (k : String) (v : Json) (rest : List (String × Json)) :
    sortedMembers ((k, v) :: rest) =
      if (get? k (sortedMembers rest)).isSome then sortedMembers rest
      else insert k (sorted v) (sortedMembers rest) := by
  rw [sortedMembers]

theorem ascending_sortedMembers (ms : List (String × Json)) : (sortedMembers ms).Ascending := by
  induction ms with
  | nil => exact ascending_nil
  | cons m rest ih =>
    rw [sortedMembers_cons]
    split_ifs
    · exact ih
    · exact ih.insert _ _

theorem get?_sortedMembers_eq_none {key : String} {ms : List (String × Json)}
    (h : ∀ m ∈ ms, m.1 ≠ key) : get? key (sortedMembers ms) = none := by
  induction ms with
  | nil => rfl
  | cons m rest ih =>
    have hrest := ih fun n hn => h n (List.mem_cons_of_mem _ hn)
    rw [sortedMembers_cons]
    split_ifs
    · exact hrest
    · rw [get?_insert, if_neg (h m List.mem_cons_self).symm, hrest]

/-- What members are put in over others. -/
theorem get?_foldl_insert (key : String) (ms : List (String × Json)) (acc : Members) :
    get? key (ms.foldl (fun acc m => insert m.1 (sorted m.2) acc) acc) =
      (get? key (sortedMembers ms)).or (get? key acc) := by
  induction ms generalizing acc with
  | nil => rfl
  | cons m rest ih =>
    rw [List.foldl_cons, ih, sortedMembers_cons, get?_insert]
    by_cases hkey : key = m.1
    · rw [if_pos hkey, hkey]
      split_ifs with hlater
      · obtain ⟨w, hw⟩ := Option.isSome_iff_exists.mp hlater
        rw [hw, Option.some_or, Option.some_or]
      · rw [get?_insert, if_pos rfl, Option.not_isSome_iff_eq_none.mp hlater]
        rfl
    · rw [if_neg hkey]
      split_ifs
      · rfl
      · rw [get?_insert, if_neg hkey]

/-- **Members put in one after the other are sorted**: of two with one key the later counts. -/
theorem foldl_insert_eq (ms : List (String × Json)) :
    ms.foldl (fun acc m => insert m.1 (sorted m.2) acc) [] = sortedMembers ms := by
  have hascending : ∀ (ms : List (String × Json)) (acc : Members), acc.Ascending →
      (ms.foldl (fun acc m => insert m.1 (sorted m.2) acc) acc).Ascending := by
    intro ms
    induction ms with
    | nil => exact fun _ h => h
    | cons m rest ih => exact fun _ h => ih _ (h.insert _ _)
  refine (hascending ms [] ascending_nil).ext (ascending_sortedMembers ms) fun key => ?_
  rw [get?_foldl_insert]
  exact Option.or_none

/-! ### Ordered values -/

/-- The keys of every object in a value ascend. -/
inductive Ordered : Json → Prop where
  | null : Ordered .null
  | bool (b : Bool) : Ordered (.bool b)
  | int (i : Int) : Ordered (.int i)
  | float (x : Binary64) : Ordered (.float x)
  | str (s : String) : Ordered (.str s)
  | arr {items : List Json} (hitems : ∀ v ∈ items, Ordered v) : Ordered (.arr items)
  | obj {ms : Members} (hkeys : ms.Ascending) (hvalues : ∀ m ∈ ms, Ordered m.2) : Ordered (.obj ms)

theorem Ordered.keys {ms : Members} (h : Ordered (.obj ms)) : ms.Ascending := by
  cases h with
  | obj hkeys hvalues => exact hkeys

/-- Members with ascending keys and settled values are settled. -/
theorem sortedMembers_of_ascending {ms : Members} (hkeys : ms.Ascending)
    (hvalues : ∀ m ∈ ms, sorted m.2 = m.2) : sortedMembers ms = ms := by
  induction ms with
  | nil => rfl
  | cons m rest ih =>
    have hrest := ih (ascending_cons.mp hkeys).2 fun n hn => hvalues n (List.mem_cons_of_mem _ hn)
    have hnew : ¬ (get? m.1 rest).isSome := by
      rw [hkeys.get?_tail]
      exact Bool.false_ne_true
    rw [sortedMembers_cons, hrest, if_neg hnew, insert_of_lt (ascending_cons.mp hkeys).1,
      hvalues m List.mem_cons_self]

/-- **`sorted` leaves an ordered value as it is.** -/
theorem Ordered.sorted_eq {v : Json} (h : Ordered v) : sorted v = v := by
  induction h with
  | null | bool | int | float | str => rfl
  | arr hitems ih =>
    rw [sorted, sortedItems_eq_map, List.map_congr_left ih, List.map_id']
  | obj hkeys hvalues ih => rw [sorted, sortedMembers_of_ascending hkeys ih]

end ProfileBrowser.Json
