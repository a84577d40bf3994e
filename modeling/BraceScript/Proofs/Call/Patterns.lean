import BraceScript.Call.Parameter
import BraceScript.Proofs.Text.Lead
import Mathlib.Data.List.Induction
import Mathlib.Data.List.TakeWhile
import Mathlib.Data.Nat.Digits.Defs

namespace BraceScript

def Mode.print : Mode → String
  | .eager => ""
  | .deferred => "~"
  | .raw => "!"

namespace Parameter

def numeral (digits : List Char) : Nat :=
  Nat.ofDigits 10 (digits.reverse.map fun c ↦ c.toNat - '0'.toNat)

namespace ArityMark

def print : ArityMark → String
  | none => ""
  | optional => "?"
  | any => "*"
  | atLeast digits => "+" ++ String.ofList digits

/-- The least number of arguments, if the mark is one of a repeatable parameter. -/
def repeat? : ArityMark → Option Nat
  | none | optional => Option.none
  | any => some 0
  | atLeast [] => some 1
  | atLeast digits => some (numeral digits)

def IsDecimal : ArityMark → Prop
  | atLeast digits => ∀ c ∈ digits, Text.isDecimal c = true
  | _ => True

def IsValid : ArityMark → Prop
  | atLeast digits => (∀ c ∈ digits, c.isDigit = true) ∧ numeral digits < countBound
  | _ => True

end ArityMark

def printDefault : Option String → String
  | none => ""
  | some text => ":" ++ text

def IsName (name : String) : Prop :=
  ∃ c rest, name.toList = c :: rest ∧ c.isAlpha = true ∧
    ∀ c ∈ rest, c.isAlphanum = true ∨ c = '_'

/-- The text is a mode, a name, an arity mark and a default, one after the other. -/
structure Spells (text : String) (mode : Mode) (name : String) (mark : ArityMark)
    (default? : Option String) : Prop where
  text_eq : text = mode.print ++ name ++ mark.print ++ printDefault default?
  isName : IsName name
  isDecimal : mark.IsDecimal
  isLine : ∀ line ∈ default?, '\n' ∉ line.toList

@[ext]
structure Pattern where
  mode : Mode
  name : String
  mark : ArityMark
  default? : Option String
  name_valid : IsName name
  mark_valid : mark.IsValid
  default_valid : ∀ text ∈ default?, '\n' ∉ text.toList
  default_unrepeated : default?.isSome = true → mark.repeat? = none

namespace Pattern

def print (g : Pattern) : String :=
  g.mode.print ++ g.name ++ g.mark.print ++ printDefault g.default?

/-- What a pattern says of the parameter it declares. -/
structure Declares (g : Pattern) (p : Parameter) : Prop where
  name : p.name = g.name
  mode : p.mode = g.mode
  isOptional : p.isOptional = true ↔ g.mark = .optional ∨ g.default?.isSome = true
  default? : p.default? = g.default?
  repeat? : p.repeat? = g.mark.repeat?

end Pattern

section Characters

theorem isLetter_eq_isAlpha (c : Char) : isLetter c = c.isAlpha := by
  have hupper : (decide ('A' ≤ c) && decide (c ≤ 'Z')) = c.isUpper := (Bool.decide_and _ _).symm
  rw [isLetter, hupper]
  rfl

theorem isNameChar_iff (c : Char) : isNameChar c = true ↔ c.isAlphanum = true ∨ c = '_' := by
  simp [isNameChar, isLetter_eq_isAlpha, between_eq_isDigit, Char.isAlphanum]

theorem isDecimal_of_isDigit {c : Char} (h : c.isDigit = true) : Text.isDecimal c = true := by
  have hle : c.toNat ≤ '9'.toNat := of_decide_eq_true (Bool.and_eq_true_iff.mp h).2
  rw [Text.isDecimal, if_pos (Nat.lt_of_le_of_lt hle (by decide)), between_eq_isDigit, h]

theorem foldl_eq_numeral (digits : List Char) :
    digits.foldl (fun n c ↦ 10 * n + (c.toNat - '0'.toNat)) 0 = numeral digits := by
  induction digits using List.reverseRecOn with
  | nil => rfl
  | append_singleton digits c ih =>
    rw [List.foldl_append, ih]
    simp [numeral, Nat.ofDigits_cons, Nat.add_comm]

end Characters

section Readers

theorem readMode_print (mode : Mode) {c : Char} (hc : c.isAlpha = true) (rest : List Char) :
    readMode (mode.print.toList ++ c :: rest) = (mode, c :: rest) := by
  cases mode with
  | deferred => rfl
  | raw => rfl
  | eager =>
    -- No mark of a mode is a letter.
    have hdeferred : c ≠ '~' := by
      rintro rfl
      cases hc
    have hraw : c ≠ '!' := by
      rintro rfl
      cases hc
    simp [Mode.print, readMode, hdeferred, hraw]

theorem print_readMode (text : List Char) :
    (readMode text).1.print.toList ++ (readMode text).2 = text := by
  unfold readMode
  split <;> simp [Mode.print]

theorem head?_printDefault {default? : Option String} :
    ∀ c ∈ (printDefault default?).toList.head?, c = ':' := by
  cases default? with
  | none => simp [printDefault]
  | some text => simp [printDefault]

theorem readArity_print {mark : ArityMark} (hmark : mark.IsDecimal) (default? : Option String) :
    readArity (mark.print.toList ++ (printDefault default?).toList) =
      (mark, (printDefault default?).toList) := by
  cases mark with
  | none =>
    cases default? with
    | none => rfl
    | some text => simp [ArityMark.print, printDefault, readArity]
  | optional => simp [ArityMark.print, readArity]
  | any => simp [ArityMark.print, readArity]
  | atLeast digits =>
    have hrest : ∀ c ∈ (printDefault default?).toList.head?, Text.isDecimal c = false := by
      intro c hc
      rw [head?_printDefault c hc]
      rfl
    obtain ⟨htake, hdrop⟩ := span_append hmark _ hrest
    simp [ArityMark.print, readArity, htake, hdrop]

theorem print_readArity (text : List Char) :
    (readArity text).1.print.toList ++ (readArity text).2 = text := by
  unfold readArity
  split <;> simp [ArityMark.print]

theorem isDecimal_readArity (text : List Char) : (readArity text).1.IsDecimal := by
  unfold readArity
  split
  case h_3 => exact fun c hc ↦ List.mem_takeWhile_imp hc
  all_goals trivial

theorem readDefault_print {default? : Option String}
    (h : ∀ text ∈ default?, '\n' ∉ text.toList) :
    readDefault (printDefault default?).toList = some default? := by
  cases default? with
  | none => rfl
  | some text =>
    have hline := h text rfl
    simp [printDefault, readDefault, hline]

theorem print_readDefault {text : List Char} {default? : Option String}
    (h : readDefault text = some default?) :
    (printDefault default?).toList = text ∧ ∀ line ∈ default?, '\n' ∉ line.toList := by
  unfold readDefault at h
  split at h
  · cases h
    simp [printDefault]
  · split at h
    · cases h
    · rename_i line hline
      cases h
      simpa [printDefault] using hline
  · cases h

theorem not_isNameChar_head? (mark : ArityMark) (default? : Option String) :
    ∀ c ∈ (mark.print.toList ++ (printDefault default?).toList).head?, isNameChar c = false := by
  intro c hc
  cases mark with
  | none =>
    rw [head?_printDefault c (by simpa [ArityMark.print] using hc)]
    rfl
  | optional =>
    obtain rfl : '?' = c := by simpa [ArityMark.print] using hc
    rfl
  | any =>
    obtain rfl : '*' = c := by simpa [ArityMark.print] using hc
    rfl
  | atLeast digits =>
    obtain rfl : '+' = c := by simpa [ArityMark.print] using hc
    rfl

theorem IsName.isNameChar {name : String} (h : IsName name) :
    ∀ c ∈ name.toList, isNameChar c = true := by
  obtain ⟨c, rest, hname, hc, hrest⟩ := h
  rw [hname]
  intro d hd
  rw [isNameChar_iff]
  rcases List.mem_cons.mp hd with rfl | hd
  · simp [Char.isAlphanum, hc]
  · exact hrest d hd

theorem split?_of_spells {text : String} {mode : Mode} {name : String} {mark : ArityMark}
    {default? : Option String} (h : Spells text mode name mark default?) :
    split? text.toList = some (mode, name, mark, default?) := by
  have htext : text.toList = mode.print.toList ++
      (name.toList ++ (mark.print.toList ++ (printDefault default?).toList)) := by
    simp [h.text_eq]
  obtain ⟨htake, hdrop⟩ := span_append h.isName.isNameChar _ (not_isNameChar_head? mark default?)
  obtain ⟨c, rest, hname, hc, -⟩ := h.isName
  have hmode := readMode_print mode hc
    (rest ++ (mark.print.toList ++ (printDefault default?).toList))
  rw [← List.cons_append, ← hname, ← htext] at hmode
  rw [split?, hmode]
  dsimp only
  rw [htake, hdrop, readArity_print h.isDecimal]
  dsimp only
  split
  · rename_i hnil
    simp [hname] at hnil
  · rename_i d tail hcons
    obtain ⟨rfl, -⟩ := List.cons.inj (hname.symm.trans hcons)
    rw [isLetter_eq_isAlpha, if_pos hc, readDefault_print h.isLine, Option.map_some,
      String.ofList_toList]

theorem isName_of_takeWhile {body : List Char} {c : Char} {tail : List Char}
    (h : body.takeWhile isNameChar = c :: tail) (hc : isLetter c = true) :
    IsName (String.ofList (c :: tail)) := by
  refine ⟨c, tail, String.toList_ofList, by rw [← isLetter_eq_isAlpha, hc], ?_⟩
  intro d hd
  have hmem : d ∈ body.takeWhile isNameChar := by
    rw [h]
    exact List.mem_cons_of_mem c hd
  exact (isNameChar_iff d).mp (List.mem_takeWhile_imp hmem)

/-- A text is read just if it is spelled in parts, which are then the ones that are read. -/
theorem split?_eq_some_iff {text : String} {mode : Mode} {name : String} {mark : ArityMark}
    {default? : Option String} : split? text.toList = some (mode, name, mark, default?) ↔
      Spells text mode name mark default? := by
  refine ⟨fun h ↦ ?_, split?_of_spells⟩
  have hmode := print_readMode text.toList
  unfold split? at h
  generalize readMode text.toList = read at h hmode
  obtain ⟨mode', body⟩ := read
  dsimp only at h hmode
  have hmark := print_readArity (body.dropWhile isNameChar)
  have hdecimal := isDecimal_readArity (body.dropWhile isNameChar)
  generalize readArity (body.dropWhile isNameChar) = read at h hmark hdecimal
  obtain ⟨mark', rest⟩ := read
  dsimp only at h hmark hdecimal
  split at h
  · cases h
  rename_i c tail hname
  split at h
  · rename_i hc
    obtain ⟨line?, hline, hparts⟩ := Option.map_eq_some_iff.mp h
    cases hparts
    obtain ⟨hdefault, hvalid⟩ := print_readDefault hline
    refine ⟨?_, hname ▸ isName_of_takeWhile hname hc, hdecimal, hvalid⟩
    apply String.toList_injective
    symm
    calc _ = mode.print.toList ++ (body.takeWhile isNameChar ++
          (mark.print.toList ++ (printDefault default?).toList)) := by simp
      _ = mode.print.toList ++ body := by
          rw [hdefault, hmark, List.takeWhile_append_dropWhile]
      _ = text.toList := hmode
  · cases h

end Readers

section Arities

theorem leastOf?_eq_some_iff {digits : List Char} {n : Nat} :
    leastOf? digits = some n ↔
      (ArityMark.atLeast digits).IsValid ∧ (ArityMark.atLeast digits).repeat? = some n := by
  cases digits with
  | nil => simp [leastOf?, ArityMark.IsValid, ArityMark.repeat?, numeral, countBound]
  | cons c digits =>
    have hall : ((c :: digits).all fun d ↦ '0' ≤ d && d ≤ '9') = true ↔
        ∀ d ∈ c :: digits, d.isDigit = true := by
      simp only [between_eq_isDigit, List.all_eq_true]
    simp only [leastOf?, foldl_eq_numeral, hall, ArityMark.IsValid, ArityMark.repeat?,
      List.isEmpty_cons, Bool.false_eq_true, if_false]
    split_ifs with hdigits hsmall
    · exact (and_iff_right ⟨hdigits, hsmall⟩).symm
    · exact iff_of_false not_false fun h ↦ hsmall h.1.2
    · exact iff_of_false not_false fun h ↦ hdigits h.1.1

theorem arityOf_ne_malformed (mark : ArityMark) (default? : Option String) :
    arityOf mark default? ≠ .error .malformed := by
  unfold arityOf
  cases mark with
  | none => simp
  | optional => simp
  | any =>
    dsimp only
    split <;> simp
  | atLeast digits =>
    dsimp only
    split
    · simp
    · split <;> simp

theorem valid_of_arityOf {mark : ArityMark} {default? : Option String} {arity : Arity}
    (h : arityOf mark default? = .ok arity) :
    mark.IsValid ∧ (default?.isSome = true → mark.repeat? = none) := by
  cases mark with
  | none => exact ⟨trivial, fun _ ↦ rfl⟩
  | optional => exact ⟨trivial, fun _ ↦ rfl⟩
  | any =>
    refine ⟨trivial, fun hsome ↦ ?_⟩
    simp [arityOf, hsome] at h
  | atLeast digits =>
    cases hleast : leastOf? digits with
    | none => simp [arityOf, hleast] at h
    | some n =>
      refine ⟨(leastOf?_eq_some_iff.mp hleast).1, fun hsome ↦ ?_⟩
      simp [arityOf, hleast, hsome] at h

theorem Pattern.default?_of_repeat? {g : Pattern} {n : Nat} (h : g.mark.repeat? = some n) :
    g.default? = none := by
  cases hdefault : g.default? with
  | none => rfl
  | some text =>
    have hnone := g.default_unrepeated (by rw [hdefault]; rfl)
    rw [h] at hnone
    cases hnone

theorem Pattern.declares_repeated {g : Pattern} {n : Nat} (h : g.mark.repeat? = some n) :
    g.Declares ⟨g.name, g.mode, .repeated n⟩ where
  name := rfl
  mode := rfl
  isOptional := by
    have hoptional : g.mark ≠ .optional := by
      intro hmark
      rw [hmark] at h
      cases h
    simp [Parameter.isOptional, hoptional, g.default?_of_repeat? h]
  default? := (g.default?_of_repeat? h).symm
  repeat? := h.symm

theorem exists_arityOf (g : Pattern) :
    ∃ arity, arityOf g.mark g.default? = .ok arity ∧ g.Declares ⟨g.name, g.mode, arity⟩ := by
  cases hmark : g.mark with
  | none =>
    have hrepeat : g.mark.repeat? = none := by rw [hmark]; rfl
    cases hdefault : g.default? with
    | none =>
      have hoptional : ¬(g.mark = .optional ∨ g.default?.isSome = true) := by simp [hmark, hdefault]
      exact ⟨.required, rfl, rfl, rfl, iff_of_false Bool.false_ne_true hoptional, hdefault.symm,
        hrepeat.symm⟩
    | some text =>
      have hoptional : g.mark = .optional ∨ g.default?.isSome = true := by simp [hdefault]
      exact ⟨.optional (some text), rfl, rfl, rfl, iff_of_true rfl hoptional, hdefault.symm,
        hrepeat.symm⟩
  | optional =>
    have hrepeat : g.mark.repeat? = none := by rw [hmark]; rfl
    exact ⟨.optional g.default?, rfl, rfl, rfl, iff_of_true rfl (Or.inl hmark), rfl, hrepeat.symm⟩
  | any =>
    have hrepeat : g.mark.repeat? = some 0 := by rw [hmark]; rfl
    rw [g.default?_of_repeat? hrepeat]
    exact ⟨.repeated 0, rfl, Pattern.declares_repeated hrepeat⟩
  | atLeast digits =>
    obtain ⟨n, hrepeat⟩ : ∃ n, g.mark.repeat? = some n := by
      rw [hmark]
      cases digits <;> exact ⟨_, rfl⟩
    have hleast : leastOf? digits = some n :=
      leastOf?_eq_some_iff.mpr ⟨hmark ▸ g.mark_valid, hmark ▸ hrepeat⟩
    rw [g.default?_of_repeat? hrepeat]
    exact ⟨.repeated n, by simp [arityOf, hleast], Pattern.declares_repeated hrepeat⟩

end Arities

theorem Pattern.spells (g : Pattern) : Spells g.print g.mode g.name g.mark g.default? where
  text_eq := rfl
  isName := g.name_valid
  isDecimal := by
    have hvalid := g.mark_valid
    cases hmark : g.mark with
    | atLeast digits =>
      rw [hmark] at hvalid
      exact fun c hc ↦ isDecimal_of_isDigit (hvalid.1 c hc)
    | _ => trivial
  isLine := g.default_valid

theorem split?_print (g : Pattern) :
    split? g.print.toList = some (g.mode, g.name, g.mark, g.default?) :=
  split?_of_spells g.spells

theorem ofPattern_print (g : Pattern) : ∃ p, ofPattern g.print = .ok p ∧ g.Declares p := by
  obtain ⟨arity, harity, hdeclares⟩ := exists_arityOf g
  refine ⟨_, ?_, hdeclares⟩
  simp only [ofPattern, split?_print, harity]

theorem exists_pattern {text : String} {p : Parameter} (h : ofPattern text = .ok p) :
    ∃ g : Pattern, g.print = text := by
  unfold ofPattern at h
  split at h
  · cases h
  rename_i mode name mark default? hsplit
  split at h
  · cases h
  rename_i arity harity
  have hspells := split?_eq_some_iff.mp hsplit
  obtain ⟨hmark, honce⟩ := valid_of_arityOf harity
  exact ⟨⟨mode, name, mark, default?, hspells.isName, hmark, hspells.isLine, honce⟩,
    hspells.text_eq.symm⟩

theorem print_injective : Function.Injective Pattern.print := by
  intro g g' h
  have hsplit := split?_print g
  rw [h, split?_print g'] at hsplit
  simp only [Option.some.injEq, Prod.mk.injEq] at hsplit
  obtain ⟨hmode, hname, hmark, hdefault⟩ := hsplit
  exact Pattern.ext hmode.symm hname.symm hmark.symm hdefault.symm

theorem ofPattern_cases (text : String) : (∃ p, ofPattern text = .ok p) ∨
    ∃ fault, ofPattern text = .error (.invalidParameter text fault) := by
  unfold ofPattern
  split
  · exact Or.inr ⟨_, rfl⟩
  · split
    · exact Or.inr ⟨_, rfl⟩
    · exact Or.inl ⟨_, rfl⟩

theorem ofPattern_eq_malformed_iff {text : String} :
    ofPattern text = .error (.invalidParameter text .malformed) ↔
      ¬∃ mode name mark default?, Spells text mode name mark default? := by
  simp only [← split?_eq_some_iff]
  unfold ofPattern
  cases hsplit : split? text.toList with
  | none => simp
  | some parts =>
    obtain ⟨mode, name, mark, default?⟩ := parts
    refine iff_of_false ?_ fun hnone ↦ hnone ⟨mode, name, mark, default?, rfl⟩
    have hfault := arityOf_ne_malformed mark default?
    dsimp only
    split
    · rename_i harity
      rintro ⟨⟩
      exact hfault harity
    · simp

/-- A text declares a parameter just if it is a pattern, in one way only, and then the parameter is
the one that the pattern says. All other texts are refused, those that are not even spelled like a
pattern as malformed. -/
theorem ofPattern_grammar (text : String) :
    ((∃ p, ofPattern text = .ok p) ↔ ∃ g : Pattern, g.print = text) ∧
    (∀ g : Pattern, g.print = text → (∀ g' : Pattern, g'.print = text → g' = g) ∧
      ∃ p, ofPattern text = .ok p ∧ g.Declares p) ∧
    ((¬∃ g : Pattern, g.print = text) →
      ∃ fault, ofPattern text = .error (.invalidParameter text fault)) ∧
    (ofPattern text = .error (.invalidParameter text .malformed) ↔
      ¬∃ mode name mark default?, Spells text mode name mark default?) := by
  refine ⟨⟨?_, ?_⟩, ?_, ?_, ofPattern_eq_malformed_iff⟩
  · rintro ⟨p, hp⟩
    exact exists_pattern hp
  · rintro ⟨g, rfl⟩
    obtain ⟨p, hp, -⟩ := ofPattern_print g
    exact ⟨p, hp⟩
  · rintro g rfl
    exact ⟨fun g' h ↦ print_injective h, ofPattern_print g⟩
  · intro hnone
    rcases ofPattern_cases text with ⟨p, hp⟩ | hfault
    · exact absurd (exists_pattern hp) hnone
    · exact hfault

/-- A default with all the marks in it, and a count in digits of another script. -/
theorem ofPattern_grammar_marks :
    (∃ p, ofPattern "!a_1?:x:~b+9" = .ok p ∧ p.name = "a_1" ∧ p.mode = .raw ∧
      p.default? = some "x:~b+9" ∧ p.repeat? = none) ∧
    (¬∃ g : Pattern, g.print = "a+٣") ∧
    ∃ fault, ofPattern "a+٣" = .error (.invalidParameter "a+٣" fault) := by
  constructor
  · let g : Pattern :=
      { mode := .raw
        name := "a_1"
        mark := .optional
        default? := some "x:~b+9"
        name_valid := ⟨'a', ['_', '1'], rfl, rfl, by simp⟩
        mark_valid := trivial
        default_valid := by simp
        default_unrepeated := fun _ ↦ rfl }
    obtain ⟨p, hp, hdeclares⟩ := ((ofPattern_grammar "!a_1?:x:~b+9").2.1 g rfl).2
    exact ⟨p, hp, hdeclares.name, hdeclares.mode, hdeclares.default?, hdeclares.repeat?⟩
  · have hnone : ¬∃ g : Pattern, g.print = "a+٣" := by
      rw [← (ofPattern_grammar "a+٣").1]
      rintro ⟨p, hp⟩
      cases hp
    exact ⟨hnone, (ofPattern_grammar "a+٣").2.2.1 hnone⟩

end Parameter

end BraceScript
