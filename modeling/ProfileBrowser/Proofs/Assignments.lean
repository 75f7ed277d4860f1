import ProfileBrowser.CommandLine.Parameter
import ProfileBrowser.Proofs.Members
import ProfileBrowser.Proofs.Nesting
/-!
# Parameters as they are written

A `key=value` is cut at its first `=`, and any text can stand behind that: a parameter is refused for what
stands in front of it, no key at all, or for want of one (`readParameter_error_iff`). The blanks around the
key go, and those around the value do not. The value is the one that its text was written for, unless that
is nested too deep (`parameterValue_text`), and a text that is no document is the value itself
(`readParameter_written`).
-/

namespace ProfileBrowser.CommandLine

open Json (Exact Ordered nesting)
open Text (isBlank trimChars trimChars_eq_nil_iff)

variable {raw key : String} {front value : List Char} {v : Json}

/-! ### The first equals sign -/

theorem readParameter_of_notMem (h : '=' ∉ raw.toList) : readParameter raw = .error (.noEquals raw) := by
  have hdrop : (raw.toList ++ []).dropWhile (· ≠ '=') = [] :=
    List.dropWhile_append_of_pos fun c hc => decide_eq_true (ne_of_mem_of_not_mem hc h)
  rw [List.append_nil] at hdrop
  rw [readParameter, hdrop]

/-- A parameter is read from the two sides of its first equals sign. -/
theorem readParameter_of_split (hraw : raw.toList = front ++ '=' :: value) (h : '=' ∉ front) :
    readParameter raw =
      if (trimChars front).isEmpty then .error (.emptyKey raw)
      else .ok (String.ofList (trimChars front), parameterValue value) := by
  have hfront : ∀ c ∈ front, decide (c ≠ '=') = true := fun c hc =>
    decide_eq_true (ne_of_mem_of_not_mem hc h)
  have hdrop : raw.toList.dropWhile (· ≠ '=') = '=' :: value := by
    rw [hraw, List.dropWhile_append_of_pos hfront]
    rfl
  have htake : raw.toList.takeWhile (· ≠ '=') = front := by
    rw [hraw, List.takeWhile_append_of_pos hfront]
    exact List.append_nil front
  rw [readParameter, hdrop, htake]

/-- A text with nothing but blanks in front of its first equals sign. -/
def Keyless (raw : String) : Prop :=
  ∃ front value, raw.toList = front ++ '=' :: value ∧ '=' ∉ front ∧ ∀ c ∈ front, isBlank c = true

/-- **A parameter is refused for what is in front of its first equals sign**, or for want of one. -/
theorem readParameter_error_iff {e : ParameterError} :
    readParameter raw = .error e ↔
      (e = .noEquals raw ∧ '=' ∉ raw.toList) ∨ (e = .emptyKey raw ∧ Keyless raw) := by
  constructor
  · intro h
    by_cases hequals : '=' ∈ raw.toList
    case neg =>
      rw [readParameter_of_notMem hequals] at h
      exact .inl ⟨(Except.error.inj h).symm, hequals⟩
    case pos =>
      obtain ⟨front, value, hraw, hfront⟩ := List.eq_append_cons_of_mem hequals
      rw [readParameter_of_split hraw hfront] at h
      split at h
      case isTrue hempty =>
        have hblank := trimChars_eq_nil_iff.mp (List.isEmpty_iff.mp hempty)
        exact .inr ⟨(Except.error.inj h).symm, front, value, hraw, hfront, hblank⟩
      case isFalse => cases h
  · rintro (⟨rfl, hequals⟩ | ⟨rfl, front, value, hraw, hfront, hblank⟩)
    · exact readParameter_of_notMem hequals
    · rw [readParameter_of_split hraw hfront,
        if_pos (List.isEmpty_iff.mpr (trimChars_eq_nil_iff.mpr hblank))]

/-! ### Keys and values -/

/-- A key as it may be written in front of an equals sign, with or without blanks around it. -/
structure IsKey (key : String) : Prop where
  not_blank : ∃ c ∈ key.toList, isBlank c = false
  no_equals : '=' ∉ key.toList

/-- With a key in front of it, a parameter is read whatever stands behind. -/
theorem IsKey.readParameter (h : IsKey key) (text : String) :
    readParameter (key ++ "=" ++ text) = .ok (Text.trim key, parameterValue text.toList) := by
  have hraw : (key ++ "=" ++ text).toList = key.toList ++ '=' :: text.toList := by
    rw [String.toList_append, String.toList_append, List.append_assoc]
    rfl
  have htrim : trimChars key.toList ≠ [] := by
    obtain ⟨c, hc, hblank⟩ := h.not_blank
    intro hnil
    rw [trimChars_eq_nil_iff.mp hnil c hc] at hblank
    cases hblank
  rw [readParameter_of_split hraw h.no_equals, if_neg (mt List.isEmpty_iff.mp htrim)]
  rfl

/-- A text that is no document stands for itself. -/
theorem parameterValue_of_no_document {text : String}
    (h : ∀ v, Json.read (some parameterNesting) (Text.utf8 text.toList) ≠ .ok v) :
    parameterValue text.toList = .str text := by
  rw [parameterValue]
  split
  next v hread => exact absurd hread (h v)
  next => rw [String.ofList_toList]

/-- **The text of a value stands for the value**, with its members in order, unless it is nested too
deep. -/
theorem parameterValue_text (h : Exact v) :
    parameterValue v.text.toList = if nesting v < parameterNesting then v.sorted else .str v.text := by
  have htext : v.text.toList = v.compact := String.toList_ofList
  split
  case isTrue hroom =>
    have hfits : Json.Room (some parameterNesting) 0 (nesting v) := fun bound hbound => by
      rw [Nat.zero_add, ← Option.some.inj hbound]
      exact hroom
    rw [parameterValue, htext, Json.read_compact_of_room h hfits]
  case isFalse hdeep =>
    refine parameterValue_of_no_document fun w => ?_
    rw [htext]
    exact Json.read_compact_of_deep h (by decide) (Nat.not_lt.mp hdeep)

/-- **A parameter is read as it was written.** Behind a key a value without floats can be written as its
compact text, and a text that is no document as it is. What has no key is refused, and nothing else. -/
theorem readParameter_written :
    (∀ key v, IsKey key → Exact v → Ordered v → nesting v < parameterNesting →
      readParameter (key ++ "=" ++ v.text) = .ok (Text.trim key, v)) ∧
    (∀ key text, IsKey key →
      (∀ v, Json.read (some parameterNesting) (Text.utf8 text.toList) ≠ .ok v) →
      readParameter (key ++ "=" ++ text) = .ok (Text.trim key, .str text)) ∧
    ∀ raw e, readParameter raw = .error e ↔
      (e = .noEquals raw ∧ '=' ∉ raw.toList) ∨ (e = .emptyKey raw ∧ Keyless raw) := by
  refine ⟨fun key v hkey hexact hordered hroom => ?_, fun key text hkey htext => ?_,
    fun raw e => readParameter_error_iff⟩
  · rw [hkey.readParameter, parameterValue_text hexact, if_pos hroom, hordered.sorted_eq]
  · rw [hkey.readParameter, parameterValue_of_no_document htext]

/-- Blanks around a key, an equals sign and a quote inside a value, a second equals sign, and no key. -/
theorem readParameter_written_label :
    let v := Json.obj [("a", .arr [.int (-3), .str "x=\""]), ("b", .arr [])]
    (IsKey " label\t" ∧ Exact v ∧ Ordered v ∧ nesting v < parameterNesting ∧
      ∀ w, Json.read (some parameterNesting) (Text.utf8 "a=b".toList) ≠ .ok w) ∧
    readParameter " label\t=\x7b\"a\":[-3,\"x=\\\"\"],\"b\":[]\x7d" = .ok ("label", v) ∧
    readParameter " label\t=a=b" = .ok ("label", .str "a=b") ∧
    readParameter " \u00a0=5" = .error (.emptyKey " \u00a0=5") := by
  intro v
  have hkey : IsKey " label\t" := ⟨⟨'l', by decide, by decide⟩, by decide⟩
  have hexact : Exact v := by
    refine .obj (List.forall_mem_cons.mpr ⟨.arr ?_, List.forall_mem_cons.mpr ⟨.arr nofun, nofun⟩⟩)
    exact List.forall_mem_cons.mpr ⟨.int (by decide), List.forall_mem_cons.mpr ⟨.str _, nofun⟩⟩
  have hordered : Ordered v := by
    refine .obj (by decide)
      (List.forall_mem_cons.mpr ⟨.arr ?_, List.forall_mem_cons.mpr ⟨.arr nofun, nofun⟩⟩)
    exact List.forall_mem_cons.mpr ⟨.int _, List.forall_mem_cons.mpr ⟨.str _, nofun⟩⟩
  have hroom : nesting v < parameterNesting := by decide
  have htext : ∀ w, Json.read (some parameterNesting) (Text.utf8 "a=b".toList) ≠ .ok w := by
    have hread : Json.read (some parameterNesting) (Text.utf8 "a=b".toList) =
        .error ⟨.expectedValue, ⟨1, 1⟩⟩ := rfl
    intro w h
    rw [hread] at h
    cases h
  have hkeyless : Keyless " \u00a0=5" :=
    ⟨" \u00a0".toList, ['5'], rfl, by decide, List.all_eq_true.mp (by decide)⟩
  obtain ⟨hvalue, hstring, herror⟩ := readParameter_written
  exact ⟨⟨hkey, hexact, hordered, hroom, htext⟩, hvalue _ v hkey hexact hordered hroom,
    hstring _ "a=b" hkey htext, (herror _ _).mpr (.inr ⟨rfl, hkeyless⟩)⟩

end ProfileBrowser.CommandLine
