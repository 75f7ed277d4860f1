import Mathlib.Data.List.Forall2
import ProfileBrowser.Proofs.Decoding
import ProfileBrowser.Proofs.ReadInOrder
import ProfileBrowser.Query.Response
/-!
# Diagrams from the wire

Whatever bytes a response is read from, its diagrams are as decoded ones are (`Response.kept_of_ofBytes`):
what is read is in order (`Json.read_ordered`), a row puts a member that is not its own into its place
among the others, and never one that is, and a call graph that is null is none. Leaving out parts of
the diagrams changes nothing of that.
-/

namespace ProfileBrowser

open Json

namespace Json

/-- What succeeds has succeeded step by step. -/
theorem bind_eq_ok {ε α β : Type} {x : Except ε α} {f : α → Except ε β} {b : β}
    (h : x >>= f = .ok b) : ∃ a, x = .ok a ∧ f a = .ok b := by
  cases x with
  | error e => cases h
  | ok a => exact ⟨a, rfl, h⟩

theorem Ordered.items {items : List Json} (h : Ordered (.arr items)) : ∀ v ∈ items, v.Ordered := by
  cases h with
  | arr hitems => exact hitems

theorem Ordered.members {ms : Members} (h : Ordered (.obj ms)) : ∀ m ∈ ms, m.2.Ordered := by
  cases h with
  | obj hkeys hvalues => exact hvalues

/-- What every member keeps holds of the whole record. -/
theorem foldlM_keeps {ε σ : Type} {take : σ → String × Json → Except ε σ} {P : σ → Prop}
    {ms : List (String × Json)} (hms : ∀ m ∈ ms, m.2.Ordered)
    (htake : ∀ r m r', m.2.Ordered → P r → take r m = .ok r' → P r') {r r' : σ} (hr : P r)
    (h : ms.foldlM take r = .ok r') : P r' := by
  induction ms generalizing r with
  | nil =>
    cases h
    exact hr
  | cons m rest ih =>
    rw [List.foldlM_cons] at h
    obtain ⟨hm, hrest⟩ := List.forall_mem_cons.mp hms
    obtain ⟨u, hfirst, hlater⟩ := bind_eq_ok h
    exact ih hrest (htake r m u hm hr hfirst) hlater

theorem eq_ok_of_decodeOptional {α : Type} {value : Json → Except DecodeError α} {v : Json} {a : α}
    (h : decodeOptional value v = .ok (some a)) : value v = .ok a := by
  rw [decodeOptional.eq_def] at h
  split at h
  · cases h
  · cases hvalue : value v <;> rw [hvalue] at h <;> cases h
    rfl

/-- A word is decoded from itself. -/
theorem eq_word_of_decodeWord {v : Json} {n : UInt64} (h : decodeWord v = .ok n) : v = .word n := by
  cases v with
  | int i =>
    rw [decodeWord] at h
    split_ifs at h with hi
    cases h
    have hfits : i.toNat < UInt64.size := by
      have hcount := hi.2
      rw [Word.count] at hcount
      rw [UInt64.size]
      omega
    rw [word, UInt64.toNat_ofNat_of_lt' hfits, Int.toNat_of_nonneg hi.1]
  | _ => cases h

/-- So is a text. -/
theorem eq_str_of_decodeString {v : Json} {s : String} (h : decodeString v = .ok s) : v = .str s := by
  cases v with
  | str text =>
    cases h
    rfl
  | _ => cases h

/-- Items are decoded one by one, in their order. -/
theorem forall₂_of_mapM {α : Type} {item : Json → Except DecodeError α} {items : List Json}
    {decoded : List α} (h : items.mapM item = .ok decoded) :
    List.Forall₂ (fun w a => item w = .ok a) items decoded := by
  induction items generalizing decoded with
  | nil =>
    cases h
    exact .nil
  | cons w rest ih =>
    rw [List.mapM_cons] at h
    obtain ⟨a, hfirst, hmore⟩ := bind_eq_ok h
    obtain ⟨more, hrest, heq⟩ := bind_eq_ok hmore
    cases heq
    exact .cons hfirst (ih hrest)

/-- Decoded items come from items. -/
theorem exists_item_of_decodeItems {α : Type} {item : Json → Except DecodeError α} {v : Json}
    {decoded : List α} (h : decodeItems item v = .ok decoded) :
    ∃ items, v = .arr items ∧ ∀ a ∈ decoded, ∃ w ∈ items, item w = .ok a := by
  cases v with
  | arr items =>
    refine ⟨items, rfl, ?_⟩
    have hitems : List.Forall₂ (fun w a => item w = .ok a) items decoded := forall₂_of_mapM h
    clear h
    induction hitems with
    | nil => exact List.forall_mem_nil _
    | @cons w a rest more hfirst _ ih =>
      refine List.forall_mem_cons.mpr ⟨⟨w, List.mem_cons_self, hfirst⟩, fun b hb => ?_⟩
      obtain ⟨u, hu, hub⟩ := ih b hb
      exact ⟨u, List.mem_cons_of_mem _ hu, hub⟩
  | _ => cases h

end Json

/-! ### Rows -/

namespace TableRow

theorem kept_default : Kept {} := ⟨Members.ascending_nil, nofun, nofun⟩

/-- **What becomes of a member**: it is one of the row's own and put into its field, or it is put into its
place among the others. -/
theorem takeMember_cases {row row' : TableRow} {m : String × Json} (htake : row.takeMember m = .ok row') :
    (∃ own : Own, m = (own.key, own.written) ∧ row' = own.put row) ∨
      m.1 ∉ names ∧ row' = { row with extra := Members.insert m.1 m.2 row.extra } := by
  obtain ⟨key, v⟩ := m
  by_cases hown : key ∈ names
  · left
    simp only [names, List.mem_cons, List.not_mem_nil, or_false] at hown
    rcases hown with rfl | rfl | rfl | rfl
    · obtain ⟨n, hn, hrow⟩ := bind_eq_ok htake
      obtain rfl := eq_word_of_decodeWord hn
      exact ⟨.id n, rfl, (Except.ok.inj hrow).symm⟩
    · obtain ⟨text, htext, hrow⟩ := bind_eq_ok htake
      obtain rfl := eq_str_of_decodeString htext
      exact ⟨.name text, rfl, (Except.ok.inj hrow).symm⟩
    · obtain ⟨n, hn, hrow⟩ := bind_eq_ok htake
      obtain rfl := eq_word_of_decodeWord hn
      exact ⟨.self n, rfl, (Except.ok.inj hrow).symm⟩
    · obtain ⟨n, hn, hrow⟩ := bind_eq_ok htake
      obtain rfl := eq_word_of_decodeWord hn
      exact ⟨.total n, rfl, (Except.ok.inj hrow).symm⟩
  · rw [takeMember_of_other hown] at htake
    exact .inr ⟨hown, (Except.ok.inj htake).symm⟩

theorem Own.extra_put (own : Own) (row : TableRow) : (own.put row).extra = row.extra := by
  cases own <;> rfl

/-- A member of the row's own leaves the others as they are. -/
theorem extra_of_takeMember {row row' : TableRow} {m : String × Json} (hown : m.1 ∈ names)
    (htake : row.takeMember m = .ok row') : row'.extra = row.extra := by
  rcases takeMember_cases htake with ⟨own, -, rfl⟩ | ⟨hother, -⟩
  · exact own.extra_put row
  · exact absurd hown hother

/-- A member is taken into its field or into its place among the others. -/
theorem Kept.takeMember {row row' : TableRow} {m : String × Json} (h : row.Kept) (hm : m.2.Ordered)
    (htake : row.takeMember m = .ok row') : row'.Kept := by
  rcases takeMember_cases htake with ⟨own, -, rfl⟩ | ⟨hother, rfl⟩
  · have hsame := own.extra_put row
    exact ⟨hsame ▸ h.ascending, hsame ▸ h.ordered, hsame ▸ h.others⟩
  · refine ⟨h.ascending.insert _ _, fun n hn => ?_, fun n hn => ?_⟩
    · rcases Members.mem_insert hn with rfl | hn
      · exact hm
      · exact h.ordered n hn
    · rcases Members.mem_insert hn with rfl | hn
      · exact hother
      · exact h.others n hn

/-- **A row that is decoded keeps no member with a key of its own** among the others, and those in
order. -/
theorem kept_of_decode {v : Json} {row : TableRow} (hv : v.Ordered) (h : decode v = .ok row) :
    row.Kept := by
  cases v with
  | obj ms => exact foldlM_keeps hv.members (fun _ _ _ hm hr => hr.takeMember hm) kept_default h
  | _ => cases h

end TableRow

/-! ### Diagrams -/

namespace Diagrams

theorem kept_default : Kept {} := ⟨nofun, nofun⟩

theorem Kept.takeMember {d d' : Diagrams} {m : String × Json} (h : d.Kept) (hm : m.2.Ordered)
    (htake : d.takeMember m = .ok d') : d'.Kept := by
  unfold Diagrams.takeMember at htake
  split_ifs at htake
  · obtain ⟨text, -, heq⟩ := bind_eq_ok htake
    cases heq
    exact ⟨h.rows, h.graph⟩
  · obtain ⟨rows, hrows, heq⟩ := bind_eq_ok htake
    cases heq
    refine ⟨fun row hrow => ?_, h.graph⟩
    obtain ⟨items, hitems, hdecoded⟩ := exists_item_of_decodeItems hrows
    obtain ⟨w, hw, hdecode⟩ := hdecoded row hrow
    exact TableRow.kept_of_decode ((hitems ▸ hm).items w hw) hdecode
  · obtain ⟨flame, -, heq⟩ := bind_eq_ok htake
    cases heq
    exact ⟨h.rows, h.graph⟩
  · obtain ⟨key, v⟩ := m
    cases v with
    | null =>
      cases htake
      exact ⟨h.rows, nofun⟩
    | _ =>
      cases htake
      refine ⟨h.rows, ?_⟩
      rintro w ⟨⟩
      exact ⟨hm, nofun⟩
  · cases htake
    exact h

/-- **Diagrams that are decoded** have their rows and their call graph as decoded ones do. -/
theorem kept_of_decode {v : Json} {d : Diagrams} (hv : v.Ordered) (h : decode v = .ok d) : d.Kept := by
  cases v with
  | obj ms => exact foldlM_keeps hv.members (fun _ _ _ hm hr => hr.takeMember hm) kept_default h
  | arr items =>
    have hfields : ∀ m ∈ fields.zip items, m.2.Ordered := fun m hm =>
      hv.items m.2 (List.of_mem_zip hm).2
    rw [decode] at h
    obtain ⟨u, hfold, hlength⟩ := bind_eq_ok h
    have hkept := foldlM_keeps hfields (fun _ _ _ hm hr => hr.takeMember hm) kept_default hfold
    split_ifs at hlength
    · cases hlength
    · cases hlength
      exact hkept
  | _ => cases h

/-- Parts of the diagrams are as they were. -/
theorem Kept.retain {d : Diagrams} (h : d.Kept) (kinds : List DiagramKind) : (d.retain kinds).Kept := by
  refine ⟨fun row hrow => ?_, fun v hv => ?_⟩
  · rw [Diagrams.retain] at hrow
    dsimp only at hrow
    split_ifs at hrow
    · exact h.rows row hrow
    · cases hrow
  · rw [Diagrams.retain] at hv
    dsimp only at hv
    split_ifs at hv
    exact h.graph v hv

end Diagrams

/-! ### Responses -/

namespace Response

theorem takeMember_keeps {r r' : Response} {m : String × Json} (hm : m.2.Ordered)
    (hr : ∀ d, r.diagrams = some d → d.Kept) (htake : r.takeMember m = .ok r') :
    ∀ d, r'.diagrams = some d → d.Kept := by
  rw [takeMember] at htake
  split_ifs at htake
  · obtain ⟨read, hread, heq⟩ := bind_eq_ok htake
    cases heq
    intro d hd
    obtain rfl : read = some d := hd
    exact Diagrams.kept_of_decode hm (eq_ok_of_decodeOptional hread)
  · cases htake
    exact hr

theorem kept_of_ofMembers {ms : Members} (hms : ∀ m ∈ ms, m.2.Ordered) {d : Diagrams}
    (h : ofMembers ms = .ok ⟨some d⟩) : d.Kept := by
  rw [ofMembers] at h
  split at h
  next r hfold =>
    cases h
    exact foldlM_keeps (P := fun r : Response => ∀ d, r.diagrams = some d → d.Kept) hms
      (fun _ _ _ => takeMember_keeps) (fun _ hnone => by cases hnone) hfold d rfl
  next => cases h

/-- **Diagrams that are read from bytes** are as decoded ones are. -/
theorem kept_of_ofBytes {bytes : List UInt8} {d : Diagrams} (h : ofBytes bytes = .ok ⟨some d⟩) :
    d.Kept := by
  rw [ofBytes] at h
  split at h
  next v hread =>
    have hv := read_ordered hread
    cases v with
    | obj ms =>
      rw [ofJson] at h
      split_ifs at h
      split at h
      next data hdata =>
        exact kept_of_ofMembers (hv.members _ (Members.mem_of_get? hdata)).members h
      next => exact kept_of_ofMembers hv.members h
      next => exact kept_of_ofMembers hv.members h
      next => cases h
    | _ => cases h
  next => cases h

end Response

end ProfileBrowser
