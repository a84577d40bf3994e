import BraceScript.Proofs.Json.Exact
import BraceScript.Proofs.Text.Lead
import BraceScript.Proofs.Text.Lowering

namespace BraceScript

namespace Json

section Strings

def Stands (text : List Char) (c : Char) : Prop :=
  ∃ piece, (∀ pieces, decode? (piece :: pieces) = (decode? pieces).map (c :: ·)) ∧
    ∀ rest, readPieces (text ++ rest) = (readPieces rest).map fun r ↦ (piece :: r.1, r.2)

theorem stands_escaped {e c : Char} (h : escaped? e = some c) : Stands ['\\', e] c := by
  refine ⟨.char c, fun _ ↦ rfl, fun rest ↦ ?_⟩
  have hunit : e ≠ 'u' := by
    rintro rfl
    cases h
  rw [List.cons_append, List.cons_append, List.nil_append, readPieces, h]
  · cases readPieces rest <;> rfl
  · exact fun a b c d tail he _ ↦ hunit he

theorem stands_unit {a b c d : Char} {n : Nat} (h : unit? a b c d = some n) (hn : n < 0xD800) :
    Stands ['\\', 'u', a, b, c, d] (Char.ofNat n) := by
  refine ⟨.unit n, fun pieces ↦ ?_, fun rest ↦ ?_⟩
  · have hlow : ¬(0xD800 ≤ n) := by omega
    have hhigh : ¬(0xDC00 ≤ n) := by omega
    rcases pieces with _ | ⟨_ | m, pieces⟩ <;> simp [decode?, hlow, hhigh]
  · change (unit? a b c d).bind _ = _
    rw [h]
    change (readPieces rest).bind _ = _
    cases readPieces rest <;> rfl

theorem stands_plain {c : Char} (hquote : c ≠ '"') (hbackslash : c ≠ '\\')
    (hcontrol : ¬c.toNat < 0x20) : Stands [c] c := by
  refine ⟨.char c, fun _ ↦ rfl, fun rest ↦ ?_⟩
  rw [List.cons_append, List.nil_append, readPieces]
  · rw [if_neg (by simp [hbackslash, hcontrol])]
    cases readPieces rest <;> rfl
  · exact hquote
  · exact fun _ _ _ _ _ h _ ↦ hbackslash h
  · exact fun _ _ h _ ↦ hbackslash h

theorem unit?_hexDigit : ∀ n < 32,
    unit? '0' '0' (Value.hexDigit (n / 16)) (Value.hexDigit (n % 16)) = some n := by
  decide

theorem stands_escapeChar (c : Char) : Stands (Value.escapeChar c) c := by
  unfold Value.escapeChar
  split
  case h_8 hquote hbackslash _ _ _ _ _ =>
    split
    case isTrue hcontrol =>
      have hunit := stands_unit (unit?_hexDigit c.toNat hcontrol) (by omega)
      rwa [Char.ofNat_toNat] at hunit
    case isFalse hcontrol => exact stands_plain hquote hbackslash hcontrol
  all_goals exact stands_escaped rfl

theorem readPieces_escaped (text : List Char) :
    ∃ pieces, decode? pieces = some text ∧ ∀ rest,
      readPieces (text.flatMap Value.escapeChar ++ '"' :: rest) = some (pieces, rest) := by
  induction text with
  | nil => exact ⟨[], rfl, fun _ ↦ rfl⟩
  | cons c text ih =>
    obtain ⟨pieces, hdecode, hread⟩ := ih
    obtain ⟨piece, hpiece, hchar⟩ := stands_escapeChar c
    refine ⟨piece :: pieces, ?_, fun rest ↦ ?_⟩
    · rw [hpiece, hdecode, Option.map_some]
    · rw [List.flatMap_cons, List.append_assoc, hchar, hread, Option.map_some]

end Strings

def Follows (rest : List Char) : Prop := ∀ c ∈ rest.head?, c = ',' ∨ c = ']' ∨ c = '\x7d'

section Numbers

theorem toDigits_head {n : Nat} (hn : n ≠ 0) : (Nat.toDigits 10 n).head? ≠ some '0' := by
  induction n using Nat.strongRecOn with
  | ind n ih =>
    by_cases hlt : n < 10
    · rw [Nat.toDigits_of_lt_base hlt, List.head?_singleton]
      have hdigit : ∀ n < 10, n ≠ 0 → some n.digitChar ≠ some '0' := by decide
      exact hdigit n hlt hn
    · -- The first digit is the first one of a tenth of the number.
      rw [Nat.toDigits_of_base_le (by omega) (by omega), List.head?_append,
        Option.or_of_isSome (by simp [Nat.toDigits_ne_nil])]
      exact ih (n / 10) (by omega) (by omega)

theorem readWhole_toDigits (n : Nat) {rest : List Char} (hrest : Follows rest) :
    readWhole (Nat.toDigits 10 n ++ rest) = some (Nat.toDigits 10 n, rest) := by
  have hdigits : ∀ c ∈ Nat.toDigits 10 n, isDigit c = true := fun c hc ↦
    (between_eq_isDigit c).trans (Nat.isDigit_of_mem_toDigits (by decide) (by decide) hc)
  have hend : ∀ c ∈ rest.head?, isDigit c = false := by
    intro c hc
    rcases hrest c hc with rfl | rfl | rfl <;> rfl
  obtain ⟨htake, hdrop⟩ := span_append hdigits rest hend
  have hread : readDigits (Nat.toDigits 10 n ++ rest) = some (Nat.toDigits 10 n, rest) := by
    simp [readDigits, htake, hdrop, Nat.toDigits_ne_nil]
  rw [readWhole, hread]
  rcases eq_or_ne n 0 with rfl | hn
  · rfl
  · have hhead := toDigits_head hn
    split
    case h_1 heq => exact heq.symm
    case h_2 heq => simp_all
    case h_3 => rfl

theorem readUnsigned_toDigits (negative : Bool) (n : Nat) {rest : List Char} (hrest : Follows rest) :
    readUnsigned negative (Nat.toDigits 10 n ++ rest) =
      some (⟨negative, Nat.toDigits 10 n, none, none⟩, rest) := by
  have hfraction : readFraction rest = some (none, rest) := by
    unfold readFraction
    split
    · have hpoint := hrest '.' rfl
      simp at hpoint
    · rfl
  have hexponent : readExponent rest = some (none, rest) := by
    cases rest with
    | nil => rfl
    | cons c rest => rcases hrest c rfl with rfl | rfl | rfl <;> rfl
  simp [readUnsigned, readWhole_toDigits n hrest, hfraction, hexponent]

theorem Numeral.value?_toDigits {n : Int} (hword : isWord n = true) :
    Numeral.value? ⟨decide (n < 0), Nat.toDigits 10 n.natAbs, none, none⟩ = some (.int n) := by
  have hdigits : Decimal.ofDigits (Nat.toDigits 10 n.natAbs) = n.natAbs :=
    Nat.ofDigitChars_eq_foldl.symm.trans Nat.ofDigitChars_ten_toDigits
  have hsigned : (if decide (n < 0) = true then -(n.natAbs : Int) else n.natAbs) = n := by
    simp only [decide_eq_true_eq]
    omega
  have hzero : (decide (n < 0) && n.natAbs == 0) = false := by
    simp only [Bool.and_eq_false_iff, decide_eq_false_iff_not, beq_eq_false_iff_ne]
    omega
  unfold Numeral.value?
  simp only [hdigits, hsigned, hzero, hword]
  rfl

theorem toList_toString (n : Int) :
    (toString n).toList = (if n < 0 then ['-'] else []) ++ Nat.toDigits 10 n.natAbs := by
  rw [Int.toString_eq_repr, Int.repr_eq_if]
  by_cases hn : n < 0
  · have hnat : (-n).toNat = n.natAbs := by omega
    rw [if_neg (by omega), if_pos hn, hnat, String.toList_append, Nat.repr_eq_ofList_toDigits]
    simp
  · have hnat : n.toNat = n.natAbs := by omega
    rw [if_pos (by omega), if_neg hn, hnat, Nat.repr_eq_ofList_toDigits]
    simp

theorem exists_toDigits (n : Nat) : ∃ c text, Nat.toDigits 10 n = c :: text ∧ c.isDigit = true := by
  cases hdigits : Nat.toDigits 10 n with
  | nil => exact absurd hdigits Nat.toDigits_ne_nil
  | cons c text =>
    have hmem : c ∈ Nat.toDigits 10 n := hdigits ▸ List.mem_cons_self
    exact ⟨c, text, rfl, Nat.isDigit_of_mem_toDigits (by decide) (by decide) hmem⟩

theorem exists_toString (n : Int) :
    ∃ c text, (toString n).toList = c :: text ∧ (c = '-' ∨ c.isDigit = true) := by
  obtain ⟨c, text, hdigits, hc⟩ := exists_toDigits n.natAbs
  rw [toList_toString, hdigits]
  split
  · exact ⟨'-', c :: text, rfl, Or.inl rfl⟩
  · exact ⟨c, text, rfl, Or.inr hc⟩

theorem readNumeral_toString (n : Int) {rest : List Char} (hrest : Follows rest) :
    readNumeral ((toString n).toList ++ rest) =
      some (⟨decide (n < 0), Nat.toDigits 10 n.natAbs, none, none⟩, rest) := by
  have hread := readUnsigned_toDigits (decide (n < 0)) n.natAbs hrest
  rw [toList_toString]
  by_cases hn : n < 0
  · rw [if_pos hn, List.append_assoc]
    rwa [decide_eq_true hn] at hread ⊢
  · rw [if_neg hn, List.nil_append]
    rw [decide_eq_false hn] at hread ⊢
    obtain ⟨c, text, hdigits, hc⟩ := exists_toDigits n.natAbs
    -- A minus sign is no digit.
    have hminus : c ≠ '-' := by
      rintro rfl
      cases hc
    rw [hdigits] at hread ⊢
    simpa [readNumeral, hminus] using hread

end Numbers

section Trees

variable {fuel : Nat} {text rest : List Char} {tree : Tree}

theorem skipSpace_of_not {c : Char} (h : isSpace c = false) (text : List Char) :
    skipSpace (c :: text) = c :: text := by
  simp [skipSpace, h]

section Numeral

variable {c : Char} (hc : c = '-' ∨ c.isDigit = true)

include hc

theorem ne_of_numeral {d : Char} (hminus : d ≠ '-') (hdigit : d.isDigit = false) : c ≠ d := by
  rintro rfl
  exact hc.elim hminus (by simp [hdigit])

theorem isSpace_numeral : isSpace c = false := by
  simp [isSpace, ne_of_numeral hc]

theorem readTree_numeral (fuel : Nat) (text : List Char) :
    readTree (fuel + 1) (c :: text) =
      (readNumeral (c :: text)).map fun r ↦ (.number r.1, r.2) := by
  have hne (d : Char) := ne_of_numeral (d := d) hc
  rw [readTree, skipSpace_of_not (isSpace_numeral hc)]
  split <;> simp_all

end Numeral

theorem readTree_array {c : Char} (hspace : isSpace c = false) (hc : c ≠ ']') (fuel : Nat)
    (text : List Char) : readTree (fuel + 1) ('[' :: c :: text) =
      (readItems fuel (c :: text)).map fun r ↦ (.array r.1, r.2) := by
  rw [readTree, skipSpace_of_not rfl]
  simp [skipSpace_of_not hspace, hc]

theorem readTree_object (fuel : Nat) (text : List Char) :
    readTree (fuel + 1) ('\x7b' :: '"' :: text) =
      (readFields fuel ('"' :: text)).map fun r ↦ (.object r.1, r.2) := rfl

theorem readItems_last (h : readTree fuel text = some (tree, ']' :: rest)) :
    readItems (fuel + 1) text = some ([tree], rest) := by
  change (readTree fuel text).bind _ = _
  rw [h]
  rfl

theorem readItems_more {trees : List Tree} {more : List Char}
    (h : readTree fuel text = some (tree, ',' :: more))
    (hmore : readItems fuel more = some (trees, rest)) :
    readItems (fuel + 1) text = some (tree :: trees, rest) := by
  change (readTree fuel text).bind _ = _
  rw [h]
  change (readItems fuel more).bind _ = _
  rw [hmore]
  rfl

theorem readFields_last {key : List Piece} {body : List Char}
    (hkey : readPieces text = some (key, ':' :: body))
    (h : readTree fuel body = some (tree, '\x7d' :: rest)) :
    readFields (fuel + 1) ('"' :: text) = some ([(key, tree)], rest) := by
  change (readPieces text).bind _ = _
  rw [hkey]
  change (readTree fuel body).bind _ = _
  rw [h]
  rfl

theorem readFields_more {key : List Piece} {body more : List Char}
    {fields : List (List Piece × Tree)} (hkey : readPieces text = some (key, ':' :: body))
    (h : readTree fuel body = some (tree, ',' :: more))
    (hmore : readFields fuel more = some (fields, rest)) :
    readFields (fuel + 1) ('"' :: text) = some ((key, tree) :: fields, rest) := by
  change (readPieces text).bind _ = _
  rw [hkey]
  change (readTree fuel body).bind _ = _
  rw [h]
  change (readFields fuel more).bind _ = _
  rw [hmore]
  rfl

end Trees

/-- The text of the value is read back. At most `depth` arrays and objects are nested in it. -/
structure Legible (depth : Nat) (v : Value) : Prop where
  head : ∃ c text, v.print.toList = c :: text ∧ isSpace c = false ∧ c ≠ ']'
  read : ∃ tree : Tree, tree.value? depth = some v ∧ ∀ fuel rest, v.print.toList.length ≤ fuel →
    Follows rest → readTree fuel (v.print.toList ++ rest) = some (tree, rest)

section Values

variable {depth : Nat}

theorem quote_toList (s : String) :
    (Value.quote s).toList = '"' :: (s.toList.flatMap Value.escapeChar ++ ['"']) :=
  String.toList_ofList

def fieldText (name : String) (v : Value) : List Char :=
  name.toList.flatMap Value.escapeChar ++ '"' :: ':' :: v.print.toList

theorem print_list_toList (item : Value) (items : List Value) :
    (Value.list (item :: items)).print.toList =
      '[' :: (item.print.toList ++ ((Value.printItems items).toList ++ [']'])) := by
  have hprint : (Value.list (item :: items)).print =
      "[" ++ item.print ++ Value.printItems items ++ "]" := rfl
  simp [hprint]

theorem printItems_toList (item : Value) (items : List Value) :
    (Value.printItems (item :: items)).toList =
      ',' :: (item.print.toList ++ (Value.printItems items).toList) := by
  have hprint : Value.printItems (item :: items) =
      "," ++ item.print ++ Value.printItems items := rfl
  simp [hprint]

theorem print_object_toList (name : String) (v : Value) (fields : List (String × Value)) :
    (Value.object ((name, v) :: fields)).print.toList =
      '\x7b' :: '"' :: (fieldText name v ++ ((Value.printFields fields).toList ++ ['\x7d'])) := by
  have hprint : (Value.object ((name, v) :: fields)).print =
      "\x7b" ++ Value.quote name ++ ":" ++ v.print ++ Value.printFields fields ++ "\x7d" := rfl
  simp [hprint, quote_toList, fieldText]

theorem printFields_toList (name : String) (v : Value) (fields : List (String × Value)) :
    (Value.printFields ((name, v) :: fields)).toList =
      ',' :: '"' :: (fieldText name v ++ (Value.printFields fields).toList) := by
  have hprint : Value.printFields ((name, v) :: fields) =
      "," ++ Value.quote name ++ ":" ++ v.print ++ Value.printFields fields := rfl
  simp [hprint, quote_toList, fieldText]

theorem itemValues?_cons {tree : Tree} {trees : List Tree} {v : Value} {vs : List Value}
    (h : tree.value? depth = some v) (hs : itemValues? depth trees = some vs) :
    itemValues? depth (tree :: trees) = some (v :: vs) := by
  change (tree.value? depth).bind _ = _
  rw [h]
  change (itemValues? depth trees).bind _ = _
  rw [hs]
  rfl

theorem fieldValues?_cons {key : List Piece} {name : String} {tree : Tree} {v : Value}
    {trees : List (List Piece × Tree)} {vs : List (String × Value)} (hkey : text? key = some name)
    (h : tree.value? depth = some v) (hs : fieldValues? depth trees = some vs) :
    fieldValues? depth ((key, tree) :: trees) = some ((name, v) :: vs) := by
  change (text? key).bind _ = _
  rw [hkey]
  change (tree.value? depth).bind _ = _
  rw [h]
  change (fieldValues? depth trees).bind _ = _
  rw [hs]
  rfl

theorem legible_null : Legible depth .null where
  head := ⟨'n', _, rfl, rfl, by decide⟩
  read := by
    refine ⟨.null, rfl, fun fuel rest hfuel _ ↦ ?_⟩
    obtain ⟨fuel, rfl⟩ := Nat.exists_eq_add_of_le' hfuel
    rfl

theorem legible_bool (b : Bool) : Legible depth (.bool b) := by
  cases b with
  | true =>
    refine ⟨⟨'t', _, rfl, rfl, by decide⟩, .bool true, rfl, fun fuel rest hfuel _ ↦ ?_⟩
    obtain ⟨fuel, rfl⟩ := Nat.exists_eq_add_of_le' hfuel
    rfl
  | false =>
    refine ⟨⟨'f', _, rfl, rfl, by decide⟩, .bool false, rfl, fun fuel rest hfuel _ ↦ ?_⟩
    obtain ⟨fuel, rfl⟩ := Nat.exists_eq_add_of_le' hfuel
    rfl

theorem legible_int {n : Int} (hword : isWord n = true) : Legible depth (.int n) := by
  obtain ⟨c, text, hprint, hc⟩ := exists_toString n
  have hbracket : c ≠ ']' := ne_of_numeral hc (by decide) rfl
  refine ⟨⟨c, text, hprint, isSpace_numeral hc, hbracket⟩, .number _, Numeral.value?_toDigits hword,
    fun fuel rest hfuel hrest ↦ ?_⟩
  have htext : (Value.int n).print.toList = c :: text := hprint
  have hnumeral := readNumeral_toString n hrest
  rw [htext] at hfuel ⊢
  rw [hprint] at hnumeral
  cases fuel with
  | zero => simp at hfuel
  | succ fuel =>
    rw [List.cons_append, readTree_numeral hc, ← List.cons_append, hnumeral, Option.map_some]

theorem legible_text (s : String) : Legible depth (.text s) := by
  obtain ⟨pieces, hdecode, hread⟩ := readPieces_escaped s.toList
  refine ⟨⟨'"', _, quote_toList s, rfl, by decide⟩, .string pieces, ?_, fun fuel rest hfuel _ ↦ ?_⟩
  · change (text? pieces).map _ = _
    simp [text?, hdecode]
  · have htext : (Value.text s).print.toList =
        '"' :: (s.toList.flatMap Value.escapeChar ++ ['"']) := quote_toList s
    rw [htext] at hfuel ⊢
    cases fuel with
    | zero => simp at hfuel
    | succ fuel =>
      change (readPieces ((s.toList.flatMap Value.escapeChar ++ ['"']) ++ rest)).map _ = _
      rw [List.append_assoc, List.singleton_append, hread, Option.map_some]

theorem readItems_print {item : Value} {items : List Value}
    (h : ∀ v ∈ item :: items, Legible depth v) :
    ∃ trees, itemValues? depth trees = some (item :: items) ∧ ∀ fuel rest,
      item.print.toList.length + (Value.printItems items).toList.length < fuel →
      readItems fuel (item.print.toList ++ ((Value.printItems items).toList ++ ']' :: rest)) =
        some (trees, rest) := by
  induction items generalizing item with
  | nil =>
    obtain ⟨tree, hvalue, hread⟩ := (h item List.mem_cons_self).read
    refine ⟨[tree], itemValues?_cons hvalue rfl, fun fuel rest hfuel ↦ ?_⟩
    cases fuel with
    | zero => omega
    | succ fuel => exact readItems_last (hread fuel (']' :: rest) (by omega) (by simp [Follows]))
  | cons next items ih =>
    obtain ⟨tree, hvalue, hread⟩ := (h item List.mem_cons_self).read
    obtain ⟨trees, hvalues, hreads⟩ := ih fun v hv ↦ h v (List.mem_cons_of_mem item hv)
    refine ⟨tree :: trees, itemValues?_cons hvalue hvalues, fun fuel rest hfuel ↦ ?_⟩
    rw [printItems_toList, List.length_cons, List.length_append] at hfuel
    rw [printItems_toList, List.cons_append, List.append_assoc]
    cases fuel with
    | zero => omega
    | succ fuel =>
      exact readItems_more (hread fuel _ (by omega) (by simp [Follows])) (hreads fuel rest (by omega))

theorem readPieces_fieldText (name : String) (v : Value) :
    ∃ key, text? key = some name ∧ ∀ rest,
      readPieces (fieldText name v ++ rest) = some (key, ':' :: (v.print.toList ++ rest)) := by
  obtain ⟨key, hdecode, hread⟩ := readPieces_escaped name.toList
  refine ⟨key, by simp [text?, hdecode], fun rest ↦ ?_⟩
  rw [← hread, fieldText, List.append_assoc]
  rfl

theorem readFields_print {name : String} {v : Value} {fields : List (String × Value)}
    (h : ∀ f ∈ (name, v) :: fields, Legible depth f.2) :
    ∃ trees, fieldValues? depth trees = some ((name, v) :: fields) ∧ ∀ fuel rest,
      (fieldText name v).length + (Value.printFields fields).toList.length < fuel →
      readFields fuel
        ('"' :: (fieldText name v ++ ((Value.printFields fields).toList ++ '\x7d' :: rest))) =
          some (trees, rest) := by
  have hlength (name : String) (v : Value) : v.print.toList.length < (fieldText name v).length := by
    simp only [fieldText, List.length_append, List.length_cons]
    omega
  induction fields generalizing name v with
  | nil =>
    have hlegible : Legible depth v := h (name, v) List.mem_cons_self
    obtain ⟨tree, hvalue, hread⟩ := hlegible.read
    obtain ⟨key, hname, hkey⟩ := readPieces_fieldText name v
    refine ⟨[(key, tree)], fieldValues?_cons hname hvalue rfl, fun fuel rest hfuel ↦ ?_⟩
    have hv := hlength name v
    cases fuel with
    | zero => omega
    | succ fuel =>
      exact readFields_last (hkey _) (hread fuel ('\x7d' :: rest) (by omega) (by simp [Follows]))
  | cons f fields ih =>
    obtain ⟨name', v'⟩ := f
    have hlegible : Legible depth v := h (name, v) List.mem_cons_self
    obtain ⟨tree, hvalue, hread⟩ := hlegible.read
    obtain ⟨key, hname, hkey⟩ := readPieces_fieldText name v
    obtain ⟨trees, hvalues, hreads⟩ := ih fun f hf ↦ h f (List.mem_cons_of_mem _ hf)
    refine ⟨(key, tree) :: trees, fieldValues?_cons hname hvalue hvalues,
      fun fuel rest hfuel ↦ ?_⟩
    rw [printFields_toList, List.length_cons, List.length_cons, List.length_append] at hfuel
    rw [printFields_toList, List.cons_append, List.cons_append, List.append_assoc]
    have hv := hlength name v
    cases fuel with
    | zero => omega
    | succ fuel =>
      exact readFields_more (hkey _) (hread fuel _ (by omega) (by simp [Follows]))
        (hreads fuel rest (by omega))

theorem legible_list {items : List Value} (h : ∀ v ∈ items, Legible depth v) :
    Legible (depth + 1) (.list items) := by
  cases items with
  | nil =>
    refine ⟨⟨'[', [']'], rfl, rfl, by decide⟩, .array [], rfl, fun fuel rest hfuel _ ↦ ?_⟩
    obtain ⟨fuel, rfl⟩ := Nat.exists_eq_add_of_le' hfuel
    rfl
  | cons item items =>
    obtain ⟨trees, hvalues, hreads⟩ := readItems_print h
    have hvalue : (Tree.array trees).value? (depth + 1) = some (.list (item :: items)) :=
      congrArg (Option.map Value.list) hvalues
    refine ⟨⟨'[', _, print_list_toList item items, rfl, by decide⟩, .array trees, hvalue,
      fun fuel rest hfuel _ ↦ ?_⟩
    rw [print_list_toList, List.length_cons, List.length_append, List.length_append,
      List.length_singleton] at hfuel
    rw [print_list_toList]
    obtain ⟨c, text, hhead, hspace, hc⟩ := (h item List.mem_cons_self).head
    cases fuel with
    | zero => omega
    | succ fuel =>
      have hread := hreads fuel rest (by omega)
      simp only [List.cons_append, List.append_assoc, List.nil_append, hhead] at hread ⊢
      rw [readTree_array hspace hc, hread, Option.map_some]

theorem legible_object {fields : List (String × Value)}
    (hordered : Value.IsOrdered fields) (h : ∀ f ∈ fields, Legible depth f.2) :
    Legible (depth + 1) (.object fields) := by
  rcases fields with _ | ⟨⟨name, v⟩, fields⟩
  · refine ⟨⟨'\x7b', ['\x7d'], rfl, rfl, by decide⟩, .object [], rfl, fun fuel rest hfuel _ ↦ ?_⟩
    obtain ⟨fuel, rfl⟩ := Nat.exists_eq_add_of_le' hfuel
    rfl
  · obtain ⟨trees, hvalues, hreads⟩ := readFields_print h
    have hvalue : (Tree.object trees).value? (depth + 1) = some (.object ((name, v) :: fields)) :=
      (congrArg (Option.map Value.ofFields) hvalues).trans
        (congrArg some (Value.ofFields_of_isOrdered hordered))
    refine ⟨⟨'\x7b', _, print_object_toList name v fields, rfl, by decide⟩, .object trees, hvalue,
      fun fuel rest hfuel _ ↦ ?_⟩
    rw [print_object_toList, List.length_cons, List.length_cons, List.length_append,
      List.length_append] at hfuel
    rw [print_object_toList]
    cases fuel with
    | zero => omega
    | succ fuel =>
      have hread := hreads fuel rest (by omega)
      simp only [List.cons_append, List.append_assoc, List.nil_append] at hread ⊢
      rw [readTree_object, hread, Option.map_some]

theorem legible_of_exact {v : Value} (h : v.Exact depth) : Legible depth v := by
  induction h with
  | null => exact legible_null
  | bool _ b => exact legible_bool b
  | int _ hword => exact legible_int hword
  | text _ s => exact legible_text s
  | list _ ih => exact legible_list ih
  | object hordered _ ih => exact legible_object hordered ih

end Values

end Json

namespace Value

theorem ofJson?_print {v : Value} (h : v.Exact maxDepth) : ofJson? v.print.toList = some v := by
  obtain ⟨tree, hvalue, hread⟩ := (Json.legible_of_exact h).read
  have htree := hread (2 * v.print.toList.length + 2) [] (by omega) (by simp [Json.Follows])
  rw [List.append_nil] at htree
  rw [ofJson?, Json.tree?, htree]
  exact hvalue

theorem trimChars_print (items : List Value) :
    Text.trimChars (list items).print.toList = (list items).print.toList := by
  obtain ⟨text, htext⟩ : ∃ text, (list items).print.toList = '[' :: (text ++ [']']) := by
    cases items with
    | nil => exact ⟨[], rfl⟩
    | cons item items =>
      refine ⟨item.print.toList ++ (printItems items).toList, ?_⟩
      rw [Json.print_list_toList, List.append_assoc]
  rw [htext, Text.trimChars, List.dropWhile_cons_of_neg (by decide), ← List.cons_append]
  exact Text.trimEnd_of_last rfl

theorem items?_print {items : List Value} (h : (list items).Exact maxDepth) :
    items? (list items).print = some items := by
  rw [items?, trimChars_print, ofJson?_print h]

theorem ofText_of_items? {t : String} {items : List Value} (h : items? t = some items) :
    ofText t = .list items := by
  rw [ofText, h]

theorem ofText_of_none {t : String} (h : items? t = none) : ofText t = .text t := by
  rw [ofText, h]

theorem render_ofText {t : String} (h : items? t = none) : (ofText t).render = t := by
  rw [ofText_of_none h, render]

theorem ofText_render {t : String}
    (h : ∀ items, items? t = some items → (list items).doubles = []) :
    ofText (ofText t).render = ofText t := by
  cases hitems : items? t with
  | none => rw [render_ofText hitems]
  | some items =>
    have hexact := exact_of_items? hitems (h items hitems)
    rw [ofText_of_items? hitems]
    exact ofText_of_items? (items?_print hexact)

end Value

end BraceScript
