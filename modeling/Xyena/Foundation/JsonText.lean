import Xyena.Foundation.Json

/-!
# The compact text tells documents apart

Two values with one compact text are the same document. The text is read from
the left: its first character says which kind of value follows, a number ends
where no number can go on, and no escape sequence of a string begins another
one. What the encoder of a non-integer number may write is fixed by
`Json.wellFormed`; nothing is assumed about strings, keys or nesting.
-/

namespace Xyena.Foundation.Json

/-! ## Well-formed values -/

/-- The characters of a number, with the spellings of values that are not finite. -/
def numberChar (char : Char) : Bool :=
  char.isDigit || char ∈ ['+', '-', '.', 'e', 'E', 'N', 'a', 'I', 'n', 'f', 'i', 't', 'y']

/-- A text that the encoder writes for a number that is not an integer. -/
def floatText (text : List Char) : Bool :=
  text.all numberChar && text.any (fun char ↦ !char.isDigit && char != '-') &&
    text.head?.any fun char ↦ char.isDigit || char ∈ ['-', 'N', 'I']

mutual

/-- Every non-integer number has a text that the encoder can write for it. -/
def wellFormed : Json → Bool
  | .null => true
  | .bool _ => true
  | .int _ => true
  | .float text => floatText text.toList
  | .str _ => true
  | .arr items => wellFormedItems items
  | .obj fields => wellFormedFields fields

def wellFormedItems : List Json → Bool
  | [] => true
  | item :: rest => wellFormed item && wellFormedItems rest

def wellFormedFields : List (String × Json) → Bool
  | [] => true
  | (_, value) :: rest => wellFormed value && wellFormedFields rest

end

theorem wellFormedFields_iff {fields : List (String × Json)} :
    wellFormedFields fields = true ↔ ∀ field ∈ fields, field.2.wellFormed = true := by
  induction fields with
  | nil => simp [wellFormedFields]
  | cons field rest ih =>
    obtain ⟨key, value⟩ := field
    simp [wellFormedFields, ih]

theorem wellFormed_strings (values : List String) : (strings values).wellFormed = true := by
  induction values with
  | nil => rfl
  | cons value rest ih => exact ih

theorem wellFormed_ofOption (value : Option String) : (ofOption value).wellFormed = true := by
  cases value <;> rfl

theorem wellFormedFields_sortFields {fields : List (String × Json)}
    (h : wellFormedFields fields = true) : wellFormedFields (sortFields fields) = true := by
  rw [wellFormedFields_iff] at h ⊢
  intro field hfield
  exact h field ((sortFields_perm fields).mem_iff.mp hfield)

mutual

theorem wellFormed_normalize (value : Json) (h : value.wellFormed = true) :
    value.normalize.wellFormed = true := by
  cases value with
  | null => rfl
  | bool _ => rfl
  | int _ => rfl
  | float _ => exact h
  | str _ => rfl
  | arr items => exact wellFormedItems_normalize items h
  | obj fields => exact wellFormedFields_sortFields (wellFormedFields_normalize fields h)

theorem wellFormedItems_normalize (items : List Json) (h : wellFormedItems items = true) :
    wellFormedItems (normalizeItems items) = true := by
  cases items with
  | nil => rfl
  | cons item rest =>
    simp only [wellFormedItems, Bool.and_eq_true, normalizeItems] at h ⊢
    exact ⟨wellFormed_normalize item h.1, wellFormedItems_normalize rest h.2⟩

theorem wellFormedFields_normalize (fields : List (String × Json))
    (h : wellFormedFields fields = true) : wellFormedFields (normalizeFields fields) = true := by
  cases fields with
  | nil => rfl
  | cons field rest =>
    cases field with
    | mk key value =>
      simp only [wellFormedFields, Bool.and_eq_true, normalizeFields] at h ⊢
      exact ⟨wellFormed_normalize value h.1, wellFormedFields_normalize rest h.2⟩

end

/-! ## Strings -/

theorem hexDigits_append_inj {width first second : Nat} {rest other : List Char}
    (hfirst : first < 16 ^ width) (hsecond : second < 16 ^ width)
    (h : hexDigits width first ++ rest = hexDigits width second ++ other) :
    first = second ∧ rest = other := by
  obtain ⟨hdigits, hrest⟩ := List.append_inj h (by simp)
  exact ⟨hexDigits_injective hfirst hsecond hdigits, hrest⟩

theorem unicodeEscape_append_inj {first second : Nat} {rest other : List Char}
    (hfirst : first < 0x10000) (hsecond : second < 0x10000)
    (h : unicodeEscape first ++ rest = unicodeEscape second ++ other) :
    first = second ∧ rest = other := by
  simp only [unicodeEscape, List.cons_append, List.cons.injEq, true_and] at h
  exact hexDigits_append_inj (by simpa using hfirst) (by simpa using hsecond) h

/-- The letter of a two-character escape and the code it stands for. -/
def shortEscapes : List (Char × Nat) :=
  [('\"', 0x22), ('\\', 0x5c), ('n', 0x0a), ('r', 0x0d), ('t', 0x09), ('b', 0x08), ('f', 0x0c)]

theorem shortEscapes_inj {letter : Char} {first second : Nat} (hfirst : (letter, first) ∈ shortEscapes)
    (hsecond : (letter, second) ∈ shortEscapes) : first = second := by
  simp only [shortEscapes, List.mem_cons, Prod.mk.injEq, List.not_mem_nil, or_false] at hfirst hsecond
  rcases hfirst with ⟨rfl, rfl⟩ | ⟨rfl, rfl⟩ | ⟨rfl, rfl⟩ | ⟨rfl, rfl⟩ | ⟨rfl, rfl⟩ | ⟨rfl, rfl⟩ |
    ⟨rfl, rfl⟩ <;> simpa [eq_comm] using hsecond

theorem ne_u_of_mem_shortEscapes {letter : Char} {code : Nat} (h : (letter, code) ∈ shortEscapes) :
    letter ≠ 'u' := by
  rintro rfl
  revert h
  simp [shortEscapes]

/-- The four forms of an escaped character. -/
inductive EscapeForm (char : Char) (text : List Char) : Prop where
  | plain (htext : text = [char]) (hquote : char ≠ '\"') (hslash : char ≠ '\\')
  | short (letter : Char) (htext : text = ['\\', letter]) (hcode : (letter, char.toNat) ∈ shortEscapes)
  | unicode (hsmall : char.toNat < 0x10000) (htext : text = unicodeEscape char.toNat)
  | pair (hlarge : 0x10000 ≤ char.toNat)
      (htext : text = unicodeEscape (0xd800 + (char.toNat - 0x10000) / 0x400) ++
        unicodeEscape (0xdc00 + (char.toNat - 0x10000) % 0x400))

theorem escapeForm (ascii : Bool) (char : Char) : EscapeForm char (escapeChar ascii char) := by
  unfold escapeChar
  split
  next h => exact .short '\"' rfl (by rw [h]; decide)
  next h => exact .short '\\' rfl (by rw [h]; decide)
  next h => exact .short 'n' rfl (by rw [h]; decide)
  next h => exact .short 'r' rfl (by rw [h]; decide)
  next h => exact .short 't' rfl (by rw [h]; decide)
  next h => exact .short 'b' rfl (by rw [h]; decide)
  next h => exact .short 'f' rfl (by rw [h]; decide)
  next hquote hslash _ _ _ _ _ =>
    split
    next hlow => exact .unicode (by omega) rfl
    next hlow =>
      split
      next hhigh =>
        split
        next hsmall => exact .unicode hsmall rfl
        next hlarge => exact .pair (by omega) rfl
      next hhigh =>
        refine .plain rfl ?_ ?_
        · rintro rfl
          exact hquote rfl
        · rintro rfl
          exact hslash rfl

/-- No character has the code of a surrogate. -/
theorem toNat_valid (char : Char) :
    char.toNat < 0xd800 ∨ 0xdfff < char.toNat ∧ char.toNat < 0x110000 :=
  char.valid

/-- A form other than the plain one begins with a backslash, which tells the two apart. -/
theorem EscapeForm.plain_append {char other : Char} {text rest tail : List Char}
    (h : EscapeForm char text) (hother : other ≠ '\\') (htext : [other] ++ rest = text ++ tail) :
    char = other ∧ tail = rest := by
  cases h with
  | plain hplain =>
    rw [hplain] at htext
    simp only [List.cons_append, List.nil_append, List.cons.injEq] at htext
    exact ⟨htext.1.symm, htext.2.symm⟩
  | short letter hshort =>
    rw [hshort] at htext
    exact absurd (List.cons.inj htext).1 hother
  | unicode _ hunicode =>
    rw [hunicode] at htext
    exact absurd (List.cons.inj htext).1 hother
  | pair _ hpair =>
    rw [hpair] at htext
    exact absurd (List.cons.inj htext).1 hother

theorem short_append_ne_unicode {letter : Char} {code value : Nat} {rest tail : List Char}
    (hcode : (letter, code) ∈ shortEscapes) :
    ['\\', letter] ++ rest ≠ unicodeEscape value ++ tail := by
  intro h
  simp only [unicodeEscape, List.cons_append, List.cons.injEq, true_and] at h
  exact ne_u_of_mem_shortEscapes hcode h.1

/-- A single escape is never the first half of a surrogate pair. -/
theorem unicode_append_ne_pair {char other : Char} {rest tail : List Char}
    (hsmall : char.toNat < 0x10000) :
    unicodeEscape char.toNat ++ rest ≠
      unicodeEscape (0xd800 + (other.toNat - 0x10000) / 0x400) ++ tail := by
  intro h
  have hvalid := toNat_valid char
  have hother := toNat_valid other
  have hcode := (unicodeEscape_append_inj hsmall (by omega) h).1
  omega

theorem EscapeForm.append_inj {first second : Char} {text text' rest other : List Char}
    (hfirst : EscapeForm first text) (hsecond : EscapeForm second text')
    (h : text ++ rest = text' ++ other) : first = second ∧ rest = other := by
  cases hfirst with
  | plain htext _ hslash =>
    rw [htext] at h
    obtain ⟨hchar, hrest⟩ := hsecond.plain_append hslash h
    exact ⟨hchar.symm, hrest.symm⟩
  | short letter htext hcode =>
    cases hsecond with
    | plain htext' _ hslash =>
      rw [htext'] at h
      exact (EscapeForm.short letter htext hcode).plain_append hslash h.symm
    | short letter' htext' hcode' =>
      rw [htext, htext'] at h
      simp only [List.cons_append, List.nil_append, List.cons.injEq, true_and] at h
      obtain ⟨rfl, hrest⟩ := h
      exact ⟨Char.toNat_inj.mp (shortEscapes_inj hcode hcode'), hrest⟩
    | unicode _ htext' =>
      rw [htext, htext'] at h
      exact absurd h (short_append_ne_unicode hcode)
    | pair _ htext' =>
      rw [htext, htext', List.append_assoc] at h
      exact absurd h (short_append_ne_unicode hcode)
  | unicode hsmall htext =>
    cases hsecond with
    | plain htext' _ hslash =>
      rw [htext'] at h
      exact (EscapeForm.unicode hsmall htext).plain_append hslash h.symm
    | short letter' htext' hcode' =>
      rw [htext, htext'] at h
      exact absurd h.symm (short_append_ne_unicode hcode')
    | unicode hsmall' htext' =>
      rw [htext, htext'] at h
      obtain ⟨hcode, hrest⟩ := unicodeEscape_append_inj hsmall hsmall' h
      exact ⟨Char.toNat_inj.mp hcode, hrest⟩
    | pair _ htext' =>
      rw [htext, htext', List.append_assoc] at h
      exact absurd h (unicode_append_ne_pair hsmall)
  | pair hlarge htext =>
    cases hsecond with
    | plain htext' _ hslash =>
      rw [htext'] at h
      exact (EscapeForm.pair hlarge htext).plain_append hslash h.symm
    | short letter' htext' hcode' =>
      rw [htext, htext', List.append_assoc] at h
      exact absurd h.symm (short_append_ne_unicode hcode')
    | unicode hsmall' htext' =>
      rw [htext, htext', List.append_assoc] at h
      exact absurd h.symm (unicode_append_ne_pair hsmall')
    | pair hlarge' htext' =>
      rw [htext, htext', List.append_assoc, List.append_assoc] at h
      have hvalid := toNat_valid first
      have hvalid' := toNat_valid second
      obtain ⟨hhigh, htail⟩ := unicodeEscape_append_inj (by omega) (by omega) h
      obtain ⟨hlow, hrest⟩ := unicodeEscape_append_inj (by omega) (by omega) htail
      exact ⟨Char.toNat_inj.mp (by omega), hrest⟩

/-- No escaped character begins with a quotation mark. -/
theorem escapeChar_ne_quote (ascii : Bool) (char : Char) (rest tail : List Char) :
    escapeChar ascii char ++ rest ≠ '\"' :: tail := by
  intro h
  cases escapeForm ascii char with
  | plain htext hquote _ =>
    rw [htext] at h
    exact hquote (List.cons.inj h).1
  | short letter htext _ =>
    rw [htext] at h
    exact absurd (List.cons.inj h).1 (by decide)
  | unicode _ htext =>
    rw [htext] at h
    exact absurd (List.cons.inj h).1 (by decide)
  | pair _ htext =>
    rw [htext] at h
    exact absurd (List.cons.inj h).1 (by decide)

theorem escaped_append_inj (ascii : Bool) {first second rest other : List Char}
    (h : first.flatMap (escapeChar ascii) ++ '\"' :: rest =
      second.flatMap (escapeChar ascii) ++ '\"' :: other) :
    first = second ∧ rest = other := by
  induction first generalizing second with
  | nil =>
    cases second with
    | nil => exact ⟨rfl, (List.cons.inj h).2⟩
    | cons char chars =>
      rw [List.flatMap_cons, List.append_assoc] at h
      exact absurd h.symm (escapeChar_ne_quote ascii char _ _)
  | cons char chars ih =>
    cases second with
    | nil =>
      rw [List.flatMap_cons, List.append_assoc] at h
      exact absurd h (escapeChar_ne_quote ascii char _ _)
    | cons char' chars' =>
      rw [List.flatMap_cons, List.flatMap_cons, List.append_assoc, List.append_assoc] at h
      obtain ⟨rfl, htail⟩ := (escapeForm ascii char).append_inj (escapeForm ascii char') h
      obtain ⟨rfl, hrest⟩ := ih htail
      exact ⟨rfl, hrest⟩

/-- Texts that begin with a quoted string begin with the same string and go on alike. -/
theorem quote_append_inj (ascii : Bool) {first second : String} {rest other : List Char}
    (h : quote ascii first ++ rest = quote ascii second ++ other) :
    first = second ∧ rest = other := by
  simp only [quote, List.cons_append, List.append_assoc, List.cons.injEq, true_and,
    List.nil_append] at h
  obtain ⟨hchars, hrest⟩ := escaped_append_inj ascii h
  exact ⟨String.toList_injective hchars, hrest⟩

/-! ## Numbers -/

/-- The text ends here or goes on with a character that no number has. -/
def Ends (rest : List Char) : Prop := ∀ char ∈ rest.head?, numberChar char = false

theorem ends_nil : Ends [] := by
  simp [Ends]

theorem ends_cons {char : Char} (rest : List Char) (h : numberChar char = false) :
    Ends (char :: rest) := by
  simpa [Ends] using h

/-- The longest run of number characters is the same in both readings. -/
theorem number_append_inj {first second rest other : List Char}
    (hfirst : ∀ char ∈ first, numberChar char = true)
    (hsecond : ∀ char ∈ second, numberChar char = true) (hrest : Ends rest) (hother : Ends other)
    (h : first ++ rest = second ++ other) : first = second ∧ rest = other := by
  induction first generalizing second with
  | nil =>
    cases second with
    | nil => exact ⟨rfl, h⟩
    | cons char chars =>
      have hnumber := hsecond char List.mem_cons_self
      rw [hrest char (by simpa using congrArg List.head? h)] at hnumber
      cases hnumber
  | cons char chars ih =>
    cases second with
    | nil =>
      have hnumber := hfirst char List.mem_cons_self
      rw [hother char (by simpa using congrArg List.head? h.symm)] at hnumber
      cases hnumber
    | cons char' chars' =>
      obtain ⟨rfl, htail⟩ := List.cons.inj h
      obtain ⟨rfl, hends⟩ := ih (fun c hc ↦ hfirst c (List.mem_cons_of_mem _ hc))
        (fun c hc ↦ hsecond c (List.mem_cons_of_mem _ hc)) htail
      exact ⟨rfl, hends⟩

theorem toDigits_injective {first second : Nat}
    (h : Nat.toDigits 10 first = Nat.toDigits 10 second) : first = second := by
  have hvalue := congrArg (fun digits ↦ Nat.ofDigitChars 10 digits 0) h
  simpa only [Nat.ofDigitChars_ten_toDigits] using hvalue

/-- The digits of an integer, after a minus sign when it is negative. -/
theorem toList_toString (value : Int) : (toString value).toList =
    if 0 ≤ value then Nat.toDigits 10 value.toNat else '-' :: Nat.toDigits 10 (-value).toNat := by
  rw [Int.toString_eq_repr, Int.repr_eq_if]
  split
  · rw [Nat.toList_repr]
  · rw [String.toList_append, Nat.toList_repr]
    rfl

theorem digit_of_mem_toDigits {value : Nat} {char : Char} (h : char ∈ Nat.toDigits 10 value) :
    char.isDigit = true :=
  Nat.isDigit_of_mem_toDigits (by decide) (by decide) h

theorem digit_or_minus_of_mem_toString {value : Int} {char : Char}
    (h : char ∈ (toString value).toList) : char.isDigit = true ∨ char = '-' := by
  rw [toList_toString] at h
  split at h
  · exact Or.inl (digit_of_mem_toDigits h)
  · rcases List.mem_cons.mp h with hminus | hdigit
    · exact Or.inr hminus
    · exact Or.inl (digit_of_mem_toDigits hdigit)

theorem toDigits_head_ne_minus {value : Nat} {tail : List Char} :
    Nat.toDigits 10 value ≠ '-' :: tail := by
  intro h
  have hminus : '-' ∈ Nat.toDigits 10 value := by simp [h]
  exact absurd (digit_of_mem_toDigits hminus) (by decide)

theorem toString_injective {first second : Int}
    (h : (toString first).toList = (toString second).toList) : first = second := by
  rw [toList_toString, toList_toString] at h
  split at h <;> split at h
  · have hnat := toDigits_injective h
    omega
  · exact absurd h toDigits_head_ne_minus
  · exact absurd h.symm toDigits_head_ne_minus
  · have hnat := toDigits_injective (List.cons.inj h).2
    omega

/-- The text of a number. -/
def numberText : Json → Option (List Char)
  | .int value => some (toString value).toList
  | .float text => some text.toList
  | _ => none

theorem numberChar_of_numberText {value : Json} {text : List Char} (hvalue : value.wellFormed = true)
    (h : numberText value = some text) : ∀ char ∈ text, numberChar char = true := by
  cases value with
  | int value =>
    obtain rfl := Option.some.inj h
    intro char hchar
    rcases digit_or_minus_of_mem_toString hchar with hdigit | rfl
    · simp [numberChar, hdigit]
    · decide
  | float text =>
    obtain rfl := Option.some.inj h
    simp only [wellFormed, floatText, Bool.and_eq_true, List.all_eq_true] at hvalue
    exact hvalue.1.1
  | _ => cases h

/-- The text of a float has a character that the text of an integer has not. -/
theorem int_text_ne_float {value : Int} {text : String} (htext : floatText text.toList = true) :
    (toString value).toList ≠ text.toList := by
  intro h
  simp only [floatText, Bool.and_eq_true, List.any_eq_true, bne_iff_ne, Bool.not_eq_true'] at htext
  obtain ⟨char, hchar, hdigit, hminus⟩ := htext.1.2
  rw [← h] at hchar
  rcases digit_or_minus_of_mem_toString hchar with hdigit' | hminus'
  · rw [hdigit] at hdigit'
    cases hdigit'
  · exact hminus hminus'

theorem numberText_inj {first second : Json} {text : List Char} (hfirst : first.wellFormed = true)
    (hsecond : second.wellFormed = true) (h : numberText first = some text)
    (h' : numberText second = some text) : first = second := by
  rw [← h'] at h
  cases first with
  | int value =>
    cases second with
    | int value' => rw [toString_injective (Option.some.inj h)]
    | float text' => exact absurd (Option.some.inj h) (int_text_ne_float hsecond)
    | _ => cases h
  | float text =>
    cases second with
    | int value' => exact absurd (Option.some.inj h).symm (int_text_ne_float hfirst)
    | float text' => rw [String.toList_injective (Option.some.inj h)]
    | _ => cases h
  | _ => cases h'.symm.trans h.symm

/-! ## Values -/

/-- The kinds of value that the first character of a text tells apart. -/
inductive Kind where
  | null
  | yes
  | no
  | number
  | string
  | array
  | object
  | other
deriving DecidableEq

def kind : Json → Kind
  | .null => .null
  | .bool true => .yes
  | .bool false => .no
  | .int _ => .number
  | .float _ => .number
  | .str _ => .string
  | .arr _ => .array
  | .obj _ => .object

def leadKind (char : Char) : Kind :=
  if char = 'n' then .null
  else if char = 't' then .yes
  else if char = 'f' then .no
  else if char = '\"' then .string
  else if char = '[' then .array
  else if char = '\x7b' then .object
  else if char.isDigit || char ∈ ['-', 'N', 'I'] then .number
  else .other

theorem leadKind_number {char : Char} (h : char.isDigit = true ∨ char ∈ ['-', 'N', 'I']) :
    leadKind char = .number := by
  have hletter : ∀ letter ∈ ['n', 't', 'f', '\"', '[', '\x7b'], char ≠ letter := by
    intro letter hletter hchar
    subst hchar
    simp only [List.mem_cons, List.not_mem_nil, or_false] at hletter
    rcases hletter with rfl | rfl | rfl | rfl | rfl | rfl <;> revert h <;> decide
  simp only [List.mem_cons, List.not_mem_nil, or_false, forall_eq_or_imp, forall_eq] at hletter
  obtain ⟨hn, ht, hf, hquote, hopen, hbrace⟩ := hletter
  simp only [leadKind, if_neg hn, if_neg ht, if_neg hf, if_neg hquote, if_neg hopen, if_neg hbrace]
  rw [if_pos (by simpa using h)]

theorem toString_lead (value : Int) : ∃ char tail, (toString value).toList = char :: tail ∧
    leadKind char = .number := by
  have hne : (toString value).toList ≠ [] := by
    rw [toList_toString]
    split
    · exact Nat.toDigits_ne_nil
    · exact List.cons_ne_nil _ _
  obtain ⟨char, tail, htext⟩ := List.exists_cons_of_ne_nil hne
  refine ⟨char, tail, htext, leadKind_number ?_⟩
  have hchar : char ∈ (toString value).toList := by
    rw [htext]
    exact List.mem_cons_self
  exact (digit_or_minus_of_mem_toString hchar).imp_right fun hminus ↦ by simp [hminus]

theorem floatText_lead {text : List Char} (h : floatText text = true) :
    ∃ char tail, text = char :: tail ∧ leadKind char = .number := by
  simp only [floatText, Bool.and_eq_true] at h
  cases text with
  | nil => simp at h
  | cons char tail =>
    refine ⟨char, tail, rfl, leadKind_number ?_⟩
    simpa using h.2

/-- The first character of a text says which kind of value it is. -/
theorem dumpChars_lead (ascii : Bool) {value : Json} (h : value.wellFormed = true) :
    ∃ char tail, dumpChars ascii value = char :: tail ∧ leadKind char = value.kind := by
  cases value with
  | null => exact ⟨_, _, rfl, by decide⟩
  | bool value => cases value <;> exact ⟨_, _, rfl, by decide⟩
  | int value => exact toString_lead value
  | float text => exact floatText_lead h
  | str value => exact ⟨_, _, rfl, rfl⟩
  | arr items => exact ⟨_, _, rfl, rfl⟩
  | obj fields => exact ⟨_, _, rfl, rfl⟩

theorem kind_eq_of_append (ascii : Bool) {first second : Json} {rest other : List Char}
    (hfirst : first.wellFormed = true) (hsecond : second.wellFormed = true)
    (h : dumpChars ascii first ++ rest = dumpChars ascii second ++ other) :
    first.kind = second.kind := by
  obtain ⟨char, tail, htext, hkind⟩ := dumpChars_lead ascii hfirst
  obtain ⟨char', tail', htext', hkind'⟩ := dumpChars_lead ascii hsecond
  rw [htext, htext'] at h
  rw [← hkind, ← hkind', (List.cons.inj h).1]

/-- No value begins with a character that can only end one. -/
theorem dumpChars_append_ne (ascii : Bool) {value : Json} {char : Char} {rest tail : List Char}
    (hvalue : value.wellFormed = true) (hchar : leadKind char = .other) :
    dumpChars ascii value ++ rest ≠ char :: tail := by
  intro h
  obtain ⟨lead, text, htext, hkind⟩ := dumpChars_lead ascii hvalue
  rw [htext] at h
  rw [(List.cons.inj h).1, hchar] at hkind
  cases value with
  | bool value => cases value <;> cases hkind
  | _ => cases hkind

theorem numbers_append_inj (ascii : Bool) {first second : Json} {rest other : List Char}
    (hkind : first.kind = .number) (hkind' : second.kind = .number)
    (hfirst : first.wellFormed = true) (hsecond : second.wellFormed = true)
    (hrest : Ends rest) (hother : Ends other)
    (h : dumpChars ascii first ++ rest = dumpChars ascii second ++ other) :
    first = second ∧ rest = other := by
  have hnumber (value : Json) (hkind : value.kind = .number) :
      numberText value = some (dumpChars ascii value) := by
    cases value with
    | int value => rfl
    | float text => rfl
    | bool value => cases value <;> cases hkind
    | _ => cases hkind
  have htext := hnumber first hkind
  have htext' := hnumber second hkind'
  obtain ⟨hchars, hends⟩ := number_append_inj (numberChar_of_numberText hfirst htext)
    (numberChar_of_numberText hsecond htext') hrest hother h
  rw [hchars] at htext
  exact ⟨numberText_inj hfirst hsecond htext htext', hends⟩

/-- What follows the first of the items of an array, up to its closing bracket. -/
def itemsTail (ascii : Bool) (items : List Json) (rest : List Char) : List Char :=
  if items.isEmpty then ']' :: rest else ',' :: dumpItems ascii items ++ ']' :: rest

/-- What follows the first of the fields of an object, up to its closing brace. -/
def fieldsTail (ascii : Bool) (fields : List (String × Json)) (rest : List Char) : List Char :=
  if fields.isEmpty then '\x7d' :: rest else ',' :: dumpFields ascii fields ++ '\x7d' :: rest

theorem ends_itemsTail (ascii : Bool) (items : List Json) (rest : List Char) :
    Ends (itemsTail ascii items rest) := by
  unfold itemsTail
  split <;> exact ends_cons _ (by decide)

theorem ends_fieldsTail (ascii : Bool) (fields : List (String × Json)) (rest : List Char) :
    Ends (fieldsTail ascii fields rest) := by
  unfold fieldsTail
  split <;> exact ends_cons _ (by decide)

theorem dumpItems_cons_append (ascii : Bool) (item : Json) (items : List Json) (rest : List Char) :
    dumpItems ascii (item :: items) ++ ']' :: rest =
      dumpChars ascii item ++ itemsTail ascii items rest := by
  cases items with
  | nil => rfl
  | cons next items => simp [dumpItems, itemsTail]

theorem dumpFields_cons_append (ascii : Bool) (key : String) (value : Json)
    (fields : List (String × Json)) (rest : List Char) :
    dumpFields ascii ((key, value) :: fields) ++ '\x7d' :: rest =
      quote ascii key ++ ':' :: (dumpChars ascii value ++ fieldsTail ascii fields rest) := by
  cases fields with
  | nil => simp [dumpFields, fieldsTail]
  | cons next fields => simp [dumpFields, fieldsTail]

mutual

/-- Texts that begin with a value begin with the same value and go on alike. -/
theorem dumpChars_append_inj (ascii : Bool) (first second : Json) {rest other : List Char}
    (hfirst : first.wellFormed = true) (hsecond : second.wellFormed = true)
    (hrest : Ends rest) (hother : Ends other)
    (h : dumpChars ascii first ++ rest = dumpChars ascii second ++ other) :
    first = second ∧ rest = other := by
  have hkind := kind_eq_of_append ascii hfirst hsecond h
  cases first with
  | null =>
    cases second with
    | null => exact ⟨rfl, List.append_cancel_left h⟩
    | bool value => cases value <;> cases hkind
    | _ => cases hkind
  | bool value =>
    cases second with
    | bool value' =>
      have hvalue : value = value' := by
        cases value <;> cases value' <;> first | rfl | cases hkind
      subst hvalue
      exact ⟨rfl, List.append_cancel_left h⟩
    | _ => cases value <;> cases hkind
  | int value =>
    exact numbers_append_inj ascii rfl hkind.symm hfirst hsecond hrest hother h
  | float text =>
    exact numbers_append_inj ascii rfl hkind.symm hfirst hsecond hrest hother h
  | str value =>
    cases second with
    | str value' =>
      obtain ⟨hvalue, hends⟩ := quote_append_inj ascii h
      exact ⟨congrArg Json.str hvalue, hends⟩
    | bool value => cases value <;> cases hkind
    | _ => cases hkind
  | arr items =>
    cases second with
    | arr items' =>
      simp only [dumpChars, List.cons_append, List.append_assoc, List.cons.injEq, true_and,
        List.nil_append] at h
      obtain ⟨hitems, hends⟩ := dumpItems_append_inj ascii items items' hfirst hsecond h
      exact ⟨congrArg Json.arr hitems, hends⟩
    | bool value => cases value <;> cases hkind
    | _ => cases hkind
  | obj fields =>
    cases second with
    | obj fields' =>
      simp only [dumpChars, List.cons_append, List.append_assoc, List.cons.injEq, true_and,
        List.nil_append] at h
      obtain ⟨hfields, hends⟩ := dumpFields_append_inj ascii fields fields' hfirst hsecond h
      exact ⟨congrArg Json.obj hfields, hends⟩
    | bool value => cases value <;> cases hkind
    | _ => cases hkind

theorem dumpItems_append_inj (ascii : Bool) (first second : List Json) {rest other : List Char}
    (hfirst : wellFormedItems first = true) (hsecond : wellFormedItems second = true)
    (h : dumpItems ascii first ++ ']' :: rest = dumpItems ascii second ++ ']' :: other) :
    first = second ∧ rest = other := by
  cases first with
  | nil =>
    cases second with
    | nil => exact ⟨rfl, (List.cons.inj h).2⟩
    | cons item items =>
      rw [dumpItems_cons_append] at h
      simp only [wellFormedItems, Bool.and_eq_true] at hsecond
      exact absurd h.symm (dumpChars_append_ne ascii hsecond.1 (by decide))
  | cons item items =>
    simp only [wellFormedItems, Bool.and_eq_true] at hfirst
    cases second with
    | nil =>
      rw [dumpItems_cons_append] at h
      exact absurd h (dumpChars_append_ne ascii hfirst.1 (by decide))
    | cons item' items' =>
      simp only [wellFormedItems, Bool.and_eq_true] at hsecond
      rw [dumpItems_cons_append, dumpItems_cons_append] at h
      obtain ⟨rfl, htail⟩ := dumpChars_append_inj ascii item item' hfirst.1 hsecond.1
        (ends_itemsTail ascii items rest) (ends_itemsTail ascii items' other) h
      cases items with
      | nil =>
        cases items' with
        | nil => exact ⟨rfl, (List.cons.inj htail).2⟩
        | cons next' items' => exact absurd (List.cons.inj htail).1 (by decide)
      | cons next items =>
        cases items' with
        | nil => exact absurd (List.cons.inj htail).1 (by decide)
        | cons next' items' =>
          obtain ⟨hitems, hends⟩ := dumpItems_append_inj ascii (next :: items) (next' :: items')
            hfirst.2 hsecond.2 (List.cons.inj htail).2
          exact ⟨congrArg (item :: ·) hitems, hends⟩

theorem dumpFields_append_inj (ascii : Bool) (first second : List (String × Json))
    {rest other : List Char} (hfirst : wellFormedFields first = true)
    (hsecond : wellFormedFields second = true)
    (h : dumpFields ascii first ++ '\x7d' :: rest = dumpFields ascii second ++ '\x7d' :: other) :
    first = second ∧ rest = other := by
  cases first with
  | nil =>
    cases second with
    | nil => exact ⟨rfl, (List.cons.inj h).2⟩
    | cons field fields =>
      cases field with
      | mk key value =>
        rw [dumpFields_cons_append] at h
        exact absurd (List.cons.inj h).1 (by decide)
  | cons field fields =>
    cases field with
    | mk key value =>
      simp only [wellFormedFields, Bool.and_eq_true] at hfirst
      cases second with
      | nil =>
        rw [dumpFields_cons_append] at h
        exact absurd (List.cons.inj h).1 (by decide)
      | cons field' fields' =>
        cases field' with
        | mk key' value' =>
          simp only [wellFormedFields, Bool.and_eq_true] at hsecond
          rw [dumpFields_cons_append, dumpFields_cons_append] at h
          obtain ⟨rfl, hcolon⟩ := quote_append_inj ascii h
          obtain ⟨rfl, htail⟩ := dumpChars_append_inj ascii value value' hfirst.1 hsecond.1
            (ends_fieldsTail ascii fields rest) (ends_fieldsTail ascii fields' other)
            (List.cons.inj hcolon).2
          cases fields with
          | nil =>
            cases fields' with
            | nil => exact ⟨rfl, (List.cons.inj htail).2⟩
            | cons next' fields' => exact absurd (List.cons.inj htail).1 (by decide)
          | cons next fields =>
            cases fields' with
            | nil => exact absurd (List.cons.inj htail).1 (by decide)
            | cons next' fields' =>
              obtain ⟨hfields, hends⟩ := dumpFields_append_inj ascii (next :: fields)
                (next' :: fields') hfirst.2 hsecond.2 (List.cons.inj htail).2
              exact ⟨congrArg ((key, value) :: ·) hfields, hends⟩

end

/-- Well-formed values with one compact text are the same document. -/
theorem same_of_dumps (ascii : Bool) {first second : Json} (hfirst : first.wellFormed = true)
    (hsecond : second.wellFormed = true) (h : dumps ascii first = dumps ascii second) :
    Same first second := by
  have hchars := String.ofList_injective h
  have happend := congrArg (· ++ []) hchars
  exact (dumpChars_append_inj ascii _ _ (wellFormed_normalize first hfirst)
    (wellFormed_normalize second hsecond) ends_nil ends_nil happend).1

/-! ## Objects of scalars -/

/-- Neither an array nor an object. -/
def isScalar : Json → Bool
  | .arr _ => false
  | .obj _ => false
  | _ => true

theorem normalize_of_isScalar {value : Json} (h : value.isScalar = true) : value.normalize = value := by
  cases value with
  | arr items => cases h
  | obj fields => cases h
  | _ => rfl

/-- Sorting makes no scalar out of anything else. -/
theorem eq_of_normalize_isScalar {value scalar : Json} (hscalar : scalar.isScalar = true)
    (h : value.normalize = scalar) : value = scalar := by
  cases value with
  | arr items =>
    rw [← h] at hscalar
    cases hscalar
  | obj fields =>
    rw [← h] at hscalar
    cases hscalar
  | _ => exact h

/-- A document that agrees with an object of scalars has the fields of that object. -/
theorem Same.lookup_eq {fields scalars : List (String × Json)} (h : Same (.obj fields) (.obj scalars))
    (hfields : (fields.map Prod.fst).Nodup) (hkeys : (scalars.map Prod.fst).Nodup)
    (hscalars : ∀ field ∈ scalars, field.2.isScalar = true) (key : String) :
    fields.lookup key = scalars.lookup key := by
  have hlookup := h.lookup hfields hkeys key
  cases hvalue : scalars.lookup key with
  | none =>
    rw [hvalue, Option.map_none, Option.map_eq_none_iff] at hlookup
    exact hlookup
  | some value =>
    have hscalar := hscalars _ ((lookup_eq_some hkeys).mp hvalue)
    rw [hvalue, Option.map_some, normalize_of_isScalar hscalar, Option.map_eq_some_iff] at hlookup
    obtain ⟨found, hfound, hnormal⟩ := hlookup
    rw [hfound, eq_of_normalize_isScalar hscalar hnormal]

end Xyena.Foundation.Json
