import FramedLines.Json.Token
import Mathlib.Data.List.Chain
import Mathlib.Data.List.TakeDrop

-- JSON in writing, piece by piece: the characters in which a piece can be written, and that a text
-- is taken apart into the pieces it is made of, whatever white space stands between them.

namespace FramedLines.Json

-- The units of a character in UTF-16.
def utf16 (c : Char) : List Nat :=
  if c.toNat < 0x10000 then [c.toNat]
  else [0xD800 + (c.toNat - 0x10000) / 0x400, 0xDC00 + (c.toNat - 0x10000) % 0x400]

-- A hexadecimal digit, small or capital.
def IsHex (digit : Char) (value : Nat) : Prop :=
  value < 16 ∧ (digit = Nat.digitChar value ∨ digit = (Nat.digitChar value).toUpper)

namespace StringUnit

-- The text that some units make. A character can stand for itself, or all its units are escaped.
inductive Says : List StringUnit → List Char → Prop where
  | nil : Says [] []
  | char {c : Char} {units : List StringUnit} {text : List Char} (h : Says units text) :
      Says (.char c :: units) (c :: text)
  | escaped {c : Char} {units : List StringUnit} {text : List Char} (h : Says units text) :
      Says ((utf16 c).map .escape ++ units) (c :: text)

-- The letters that stand behind a backslash, and what for.
def letters : List (Char × Char) :=
  [('"', '"'), ('\\', '\\'), ('/', '/'), ('b', '\x08'), ('f', '\x0c'), ('n', '\n'), ('r', '\r'),
    ('t', '\t')]

-- What can be written between quotes for some units.
inductive Written : List StringUnit → List Char → Prop where
  | nil : Written [] []
  | plain {c : Char} {units : List StringUnit} {body : List Char} (hquote : c ≠ '"')
      (hslash : c ≠ '\\') (hcontrol : 0x20 ≤ c.toNat) (h : Written units body) :
      Written (.char c :: units) (c :: body)
  | letter {letter c : Char} {units : List StringUnit} {body : List Char}
      (hletter : (letter, c) ∈ letters) (h : Written units body) :
      Written (.char c :: units) ('\\' :: letter :: body)
  | number {first second third fourth : Char} {one two three four : Nat}
      {units : List StringUnit} {body : List Char} (hfirst : IsHex first one)
      (hsecond : IsHex second two) (hthird : IsHex third three) (hfourth : IsHex fourth four)
      (h : Written units body) :
      Written (.escape (((one * 16 + two) * 16 + three) * 16 + four) :: units)
        ('\\' :: 'u' :: first :: second :: third :: fourth :: body)

theorem text?_eq_some {units : List StringUnit} {text : List Char} (h : Says units text) :
    text? units = some text := by
  induction h with
  | nil => rfl
  | char h ih => rw [text?, ih, Option.map_some]
  | @escaped c units text h ih =>
      have hvalid : c.toNat < 0xD800 ∨ 0xDFFF < c.toNat ∧ c.toNat < 0x110000 := c.valid
      rw [utf16]
      split
      · next hsmall =>
          have hlead : isLead c.toNat = false := by
            simp [isLead]
            omega
          have htrail : isTrail c.toNat = false := by
            simp [isTrail]
            omega
          rw [List.map_cons, List.map_nil, List.singleton_append, text?.eq_def]
          simp only [hlead, htrail, Bool.false_eq_true, if_false, ih, Option.map_some,
            Char.ofNat_toNat]
      · next hlarge =>
          have hlead : isLead (0xD800 + (c.toNat - 0x10000) / 0x400) = true := by
            simp [isLead]
            omega
          have htrail : isTrail (0xDC00 + (c.toNat - 0x10000) % 0x400) = true := by
            simp [isTrail]
            omega
          have hwhole : 0x10000 + (0xD800 + (c.toNat - 0x10000) / 0x400 - 0xD800) * 0x400 +
              (0xDC00 + (c.toNat - 0x10000) % 0x400 - 0xDC00) = c.toNat := by omega
          simp only [List.map_cons, List.map_nil, List.cons_append, List.nil_append, text?, hlead,
            htrail, if_true, hwhole, ih, Option.map_some, Char.ofNat_toNat]

end StringUnit

-- Some digits, one at least.
def Digits (digits : List Char) : Prop := digits ≠ [] ∧ ∀ c ∈ digits, c.isDigit

-- The digits before the point. Only zero itself starts with a zero.
def Whole (digits : List Char) : Prop :=
  digits = ['0'] ∨ Digits digits ∧ digits.head? ≠ some '0'

theorem Whole.exists_digit {whole : List Char} (h : Whole whole) :
    ∃ digit digits, whole = digit :: digits ∧ digit.isDigit := by
  obtain rfl | ⟨h, -⟩ := h
  · exact ⟨'0', [], rfl, by decide⟩
  · obtain ⟨digit, digits, rfl⟩ := List.exists_cons_of_ne_nil h.1
    exact ⟨digit, digits, rfl, h.2 digit (List.mem_cons_self ..)⟩

inductive Fraction : List Char → Prop where
  | none : Fraction []
  | point {digits : List Char} (h : Digits digits) : Fraction ('.' :: digits)

inductive Exponent : List Char → Prop where
  | none : Exponent []
  | power {mark : Char} {sign digits : List Char} (hmark : mark = 'e' ∨ mark = 'E')
      (hsign : sign = [] ∨ sign = ['+'] ∨ sign = ['-']) (h : Digits digits) :
      Exponent (mark :: (sign ++ digits))

-- A number in decimal notation.
inductive Numeral : List Char → Prop where
  | positive {whole fraction exponent : List Char} (hwhole : Whole whole)
      (hfraction : Fraction fraction) (hexponent : Exponent exponent) :
      Numeral (whole ++ fraction ++ exponent)
  | negative {whole fraction exponent : List Char} (hwhole : Whole whole)
      (hfraction : Fraction fraction) (hexponent : Exponent exponent) :
      Numeral ('-' :: (whole ++ fraction ++ exponent))

namespace Token

-- The pieces that stand for nothing but the structure.
def isMark : Token → Prop
  | openBrace | closeBrace | openBracket | closeBracket | comma | colon => True
  | null | bool _ | number _ | string _ => False

-- The characters in which a piece can be written.
inductive Spelled : Token → List Char → Prop where
  | openBrace : Spelled openBrace ['{']
  | closeBrace : Spelled closeBrace ['}']
  | openBracket : Spelled openBracket ['[']
  | closeBracket : Spelled closeBracket [']']
  | comma : Spelled comma [',']
  | colon : Spelled colon [':']
  | null : Spelled null ['n', 'u', 'l', 'l']
  | yes : Spelled (bool true) ['t', 'r', 'u', 'e']
  | no : Spelled (bool false) ['f', 'a', 'l', 's', 'e']
  | number {spelling : List Char} (h : Numeral spelling) : Spelled (number spelling) spelling
  | text {units : List StringUnit} {text body : List Char} (hmeant : StringUnit.Says units text)
      (hwritten : StringUnit.Written units body) :
      Spelled (string (some text)) ('"' :: (body ++ ['"']))
  | half {units : List StringUnit} {body : List Char} (hmeant : StringUnit.text? units = none)
      (hwritten : StringUnit.Written units body) :
      Spelled (string none) ('"' :: (body ++ ['"']))

def Blank (space : List Char) : Prop := ∀ c ∈ space, c = ' ' ∨ c = '\n' ∨ c = '\t' ∨ c = '\r'

-- Pieces in writing one after another, with white space wherever one likes.
inductive Laid : List Token → List Char → Prop where
  | done {space : List Char} (hblank : Blank space) : Laid [] space
  | piece {space spelling chars : List Char} {token : Token} {tokens : List Token}
      (hblank : Blank space) (hspelled : Spelled token spelling) (h : Laid tokens chars) :
      Laid (token :: tokens) (space ++ (spelling ++ chars))

-- Two words must not touch, or they would be read as one.
def Apart (tokens : List Token) : Prop :=
  tokens.IsChain fun first second => first.isMark ∨ second.isMark

theorem hexDigit?_of_isHex {digit : Char} {value : Nat} (h : IsHex digit value) :
    hexDigit? digit = some value := by
  have hall : ∀ value : Fin 16, hexDigit? (Nat.digitChar value) = some value.val ∧
      hexDigit? (Nat.digitChar value).toUpper = some value.val := by decide
  obtain ⟨hvalue, rfl | rfl⟩ := h
  · exact (hall ⟨value, hvalue⟩).1
  · exact (hall ⟨value, hvalue⟩).2

theorem scanString_plain {c : Char} (hquote : c ≠ '"') (hslash : c ≠ '\\')
    (hcontrol : 0x20 ≤ c.toNat) (rest : List Char) :
    scanString (c :: rest) =
      (scanString rest).map fun (units, rest) => (.char c :: units, rest) := by
  have hcontrol : ¬ c.toNat < 0x20 := Nat.not_lt.mpr hcontrol
  rw [scanString.eq_def]
  split <;> simp_all

theorem scanString_letter {letter c : Char} (hletter : (letter, c) ∈ StringUnit.letters)
    (rest : List Char) :
    scanString ('\\' :: letter :: rest) =
      (scanString rest).map fun (units, rest) => (.char c :: units, rest) := by
  simp only [StringUnit.letters, List.mem_cons, List.not_mem_nil, or_false,
    Prod.mk.injEq] at hletter
  rcases hletter with ⟨rfl, rfl⟩ | ⟨rfl, rfl⟩ | ⟨rfl, rfl⟩ | ⟨rfl, rfl⟩ | ⟨rfl, rfl⟩ | ⟨rfl, rfl⟩ |
    ⟨rfl, rfl⟩ | ⟨rfl, rfl⟩ <;> rfl

-- Whatever is written between quotes is read up to the closing quote.
theorem scanString_written {units : List StringUnit} {body : List Char}
    (h : StringUnit.Written units body) (rest : List Char) :
    scanString (body ++ '"' :: rest) = some (units, rest) := by
  induction h with
  | nil => rfl
  | plain hquote hslash hcontrol h ih =>
      rw [List.cons_append, scanString_plain hquote hslash hcontrol, ih, Option.map_some]
  | letter hletter h ih =>
      rw [List.cons_append, List.cons_append, scanString_letter hletter, ih, Option.map_some]
  | number hfirst hsecond hthird hfourth h ih =>
      simp only [List.cons_append, scanString, hexDigit?_of_isHex hfirst,
        hexDigit?_of_isHex hsecond, hexDigit?_of_isHex hthird, hexDigit?_of_isHex hfourth, ih,
        Option.map_some]

-- What comes next does not carry a number on.
def Ends (rest : List Char) : Prop :=
  ∀ c, rest.head? = some c → ¬ c.isDigit ∧ c ≠ '.' ∧ c ≠ 'e' ∧ c ≠ 'E'

theorem scanDigits?_append {digits rest : List Char} (h : Digits digits)
    (hrest : ∀ c, rest.head? = some c → ¬ c.isDigit) :
    scanDigits? (digits ++ rest) = some (digits, rest) := by
  have htake : (digits ++ rest).takeWhile Char.isDigit = digits := by
    rw [List.takeWhile_append_of_pos h.2]
    cases rest with
    | nil => simp
    | cons c rest => simp [hrest c rfl]
  have hdrop : (digits ++ rest).dropWhile Char.isDigit = rest := by
    rw [List.dropWhile_append_of_pos h.2]
    cases rest with
    | nil => rfl
    | cons c rest => simp [hrest c rfl]
  obtain ⟨digit, digits, rfl⟩ := List.exists_cons_of_ne_nil h.1
  rw [scanDigits?, List.span_eq_takeWhile_dropWhile, htake, hdrop]

theorem scanWhole?_append {whole rest : List Char} (h : Whole whole)
    (hrest : ∀ c, rest.head? = some c → ¬ c.isDigit) :
    scanWhole? (whole ++ rest) = some (whole, rest) := by
  obtain rfl | ⟨h, hzero⟩ := h
  · rfl
  · obtain ⟨digit, digits, rfl⟩ := List.exists_cons_of_ne_nil h.1
    have hdigit : digit ≠ '0' := fun he => hzero (by rw [he]; rfl)
    rw [← scanDigits?_append h hrest, List.cons_append, scanWhole?.eq_def]
    split
    · next he => exact absurd (List.cons.inj he).1 hdigit
    · rfl

theorem scanFraction?_append {fraction rest : List Char} (h : Fraction fraction)
    (hrest : ∀ c, rest.head? = some c → ¬ c.isDigit ∧ c ≠ '.') :
    scanFraction? (fraction ++ rest) = some (fraction, rest) := by
  cases h with
  | none =>
      rw [List.nil_append, scanFraction?.eq_def]
      split
      · next he => exact absurd rfl (hrest '.' rfl).2
      · rfl
  | point h =>
      rw [List.cons_append, scanFraction?, scanDigits?_append h fun c hc => (hrest c hc).1,
        Option.map_some]

theorem scanExponent?_append {exponent rest : List Char} (h : Exponent exponent)
    (hrest : Ends rest) : scanExponent? (exponent ++ rest) = some (exponent, rest) := by
  cases h with
  | none =>
      cases rest with
      | nil => rfl
      | cons c rest =>
          have he : (c == 'e' || c == 'E') = false := by simp [hrest c rfl]
          simp only [List.nil_append, scanExponent?, he, Bool.false_eq_true, if_false]
  | @power mark sign digits hmark hsign h =>
      have he : (mark == 'e' || mark == 'E') = true := by simpa using hmark
      have hdigits := scanDigits?_append h fun c hc => (hrest c hc).1
      obtain rfl | rfl | rfl := hsign
      · obtain ⟨digit, digits, rfl⟩ := List.exists_cons_of_ne_nil h.1
        have hdigit := h.2 digit (List.mem_cons_self ..)
        have hplus : digit ≠ '+' := by rintro rfl; exact absurd hdigit (by decide)
        have hminus : digit ≠ '-' := by rintro rfl; exact absurd hdigit (by decide)
        rw [List.cons_append] at hdigits
        simp only [List.cons_append, List.nil_append, scanExponent?, he, if_true]
        split
        · next he => exact absurd (List.cons.inj he).1 hplus
        · next he => exact absurd (List.cons.inj he).1 hminus
        · rw [hdigits, Option.map_some]
      · simp only [List.cons_append, List.nil_append, scanExponent?, he, if_true, hdigits,
          Option.map_some]
      · simp only [List.cons_append, List.nil_append, scanExponent?, he, if_true, hdigits,
          Option.map_some]

theorem scanUnsigned?_append {whole fraction exponent rest : List Char} (hwhole : Whole whole)
    (hfraction : Fraction fraction) (hexponent : Exponent exponent) (hrest : Ends rest) :
    scanUnsigned? (whole ++ fraction ++ exponent ++ rest) =
      some (whole ++ fraction ++ exponent, rest) := by
  have hbehindFraction : ∀ c, (exponent ++ rest).head? = some c → ¬ c.isDigit ∧ c ≠ '.' := by
    intro c hc
    cases hexponent with
    | none => exact ⟨(hrest c hc).1, (hrest c hc).2.1⟩
    | power hmark hsign h =>
        obtain rfl := Option.some.inj hc
        obtain rfl | rfl := hmark <;> decide
  have hbehindWhole : ∀ c, (fraction ++ (exponent ++ rest)).head? = some c → ¬ c.isDigit := by
    intro c hc
    cases hfraction with
    | none => exact (hbehindFraction c hc).1
    | point h =>
        obtain rfl := Option.some.inj hc
        decide
  simp only [scanUnsigned?, List.append_assoc, scanWhole?_append hwhole hbehindWhole,
    scanFraction?_append hfraction hbehindFraction, scanExponent?_append hexponent hrest,
    Option.bind_eq_bind, Option.bind_some, Option.pure_def]

theorem scan?_digit {digit : Char} (hdigit : digit.isDigit) (chars : List Char) :
    scan? (digit :: chars) =
      (scanUnsigned? (digit :: chars)).map fun (spelling, rest) => (.number spelling, rest) := by
  have hother : ∀ c : Char, c.isDigit = false → digit ≠ c := by
    rintro c hc rfl
    rw [hc] at hdigit
    exact Bool.false_ne_true hdigit
  rw [scan?.eq_def]
  split <;> first | rfl | exact absurd (List.cons.inj ‹_›).1 (hother _ (by decide))

-- A piece in front is read as the piece it is. Behind a word something must end the word.
theorem scan?_spelled {token : Token} {spelling rest : List Char} (h : Spelled token spelling)
    (hrest : token.isMark ∨ Ends rest) : scan? (spelling ++ rest) = some (token, rest) := by
  cases h with
  | number h =>
      have hends : Ends rest := hrest.resolve_left id
      cases h with
      | positive hwhole hfraction hexponent =>
          obtain ⟨digit, digits, rfl, hdigit⟩ := Whole.exists_digit hwhole
          have hscan := scanUnsigned?_append hwhole hfraction hexponent hends
          simp only [List.cons_append] at hscan ⊢
          rw [scan?_digit hdigit, hscan, Option.map_some]
      | negative hwhole hfraction hexponent =>
          rw [List.cons_append, scan?, scanUnsigned?_append hwhole hfraction hexponent hends,
            Option.map_some]
  | text hmeant hwritten =>
      rw [List.cons_append, List.append_assoc, List.singleton_append, scan?,
        scanString_written hwritten, Option.map_some]
      simp only [StringUnit.text?_eq_some hmeant]
  | half hmeant hwritten =>
      rw [List.cons_append, List.append_assoc, List.singleton_append, scan?,
        scanString_written hwritten, Option.map_some]
      simp only [hmeant]
  | _ => rfl

-- A piece starts with no white space, and where it is a mark with nothing that carries on a number.
theorem Spelled.exists_front {token : Token} {spelling : List Char} (h : Spelled token spelling) :
    ∃ c chars, spelling = c :: chars ∧ isSpace c = false ∧
      (token.isMark → Ends spelling) := by
  cases h with
  | number h =>
      cases h with
      | positive hwhole hfraction hexponent =>
          obtain ⟨digit, digits, rfl, hdigit⟩ := Whole.exists_digit hwhole
          refine ⟨digit, _, rfl, ?_, False.elim⟩
          have hother : ∀ c : Char, c.isDigit = false → (digit == c) = false := by
            intro c hc
            simp only [beq_eq_false_iff_ne]
            rintro rfl
            exact Bool.false_ne_true (hc.symm.trans hdigit)
          simp only [isSpace, hother ' ' rfl, hother '\n' rfl, hother '\t' rfl, hother '\r' rfl,
            Bool.or_self]
      | negative => exact ⟨'-', _, rfl, rfl, False.elim⟩
  | text hmeant hwritten => exact ⟨'"', _, rfl, rfl, False.elim⟩
  | half hmeant hwritten => exact ⟨'"', _, rfl, rfl, False.elim⟩
  | _ => exact ⟨_, _, rfl, rfl, fun _ c hc => by obtain rfl := Option.some.inj hc; decide⟩

theorem Laid.ends {tokens : List Token} {chars : List Char} (h : Laid tokens chars)
    (hmark : ∀ token, tokens.head? = some token → token.isMark) : Ends chars := by
  have hspace (space : List Char) (hblank : Blank space) (hne : space ≠ []) (rest : List Char) :
      Ends (space ++ rest) := by
    intro c hc
    obtain ⟨first, space, rfl⟩ := List.exists_cons_of_ne_nil hne
    obtain rfl := Option.some.inj hc
    rcases hblank first (List.mem_cons_self ..) with rfl | rfl | rfl | rfl <;> decide
  cases h with
  | done hblank =>
      by_cases hne : chars = []
      · subst hne
        exact fun c hc => nomatch hc
      · simpa using hspace chars hblank hne []
  | @piece space spelling _ token _ hblank hspelled h =>
      by_cases hne : space = []
      · subst hne
        obtain ⟨c, rest, rfl, -, hends⟩ := hspelled.exists_front
        exact hends (hmark token rfl)
      · exact hspace space hblank hne _

theorem dropWhile_isSpace_append {space : List Char} (hblank : Blank space) (rest : List Char) :
    (space ++ rest).dropWhile isSpace = rest.dropWhile isSpace := by
  refine List.dropWhile_append_of_pos fun c hc => ?_
  rcases hblank c hc with rfl | rfl | rfl | rfl <;> rfl

theorem scanAll?_piece {space spelling chars : List Char} {token : Token} (hblank : Blank space)
    (hspelled : Spelled token spelling) (hends : token.isMark ∨ Ends chars) (fuel : Nat) :
    scanAll? (fuel + 1) (space ++ (spelling ++ chars)) =
      (scanAll? fuel chars).map (token :: ·) := by
  have hscan := scan?_spelled hspelled hends
  obtain ⟨c, rest, rfl, hspace, -⟩ := hspelled.exists_front
  have hdrop : (c :: (rest ++ chars)).dropWhile isSpace = c :: (rest ++ chars) := by
    rw [List.dropWhile_cons, hspace]
    rfl
  rw [List.cons_append] at hscan ⊢
  rw [scanAll?]
  simp only [dropWhile_isSpace_append hblank, hdrop, hscan]

theorem scanAll?_laid {tokens : List Token} {chars : List Char} (h : Laid tokens chars)
    (hapart : Apart tokens) {fuel : Nat} (hfuel : tokens.length ≤ fuel) :
    scanAll? fuel chars = some tokens := by
  induction h generalizing fuel with
  | done hblank =>
      have hdrop := dropWhile_isSpace_append hblank []
      rw [List.append_nil, List.dropWhile_nil] at hdrop
      simp only [scanAll?, hdrop]
  | @piece space spelling chars token tokens hblank hspelled h ih =>
      obtain ⟨fuel, rfl⟩ : ∃ less, fuel = less + 1 :=
        Nat.exists_eq_add_one_of_ne_zero (Nat.ne_of_gt (Nat.lt_of_lt_of_le (Nat.succ_pos _) hfuel))
      have hends : token.isMark ∨ Ends chars := by
        by_cases hmark : token.isMark
        · exact .inl hmark
        · refine .inr (h.ends fun next hnext => ?_)
          obtain ⟨rest, rfl⟩ := List.head?_eq_some_iff.mp hnext
          exact (List.isChain_cons_cons.mp hapart).1.resolve_left hmark
      rw [scanAll?_piece hblank hspelled hends,
        ih (List.isChain_of_isChain_cons hapart) (Nat.le_of_succ_le_succ hfuel), Option.map_some]

theorem Laid.length_le {tokens : List Token} {chars : List Char} (h : Laid tokens chars) :
    tokens.length ≤ chars.length := by
  induction h with
  | done => exact Nat.zero_le _
  | piece hblank hspelled h ih =>
      obtain ⟨c, rest, rfl, -⟩ := hspelled.exists_front
      simp only [List.length_cons, List.length_append]
      omega

-- However pieces are laid out, a text of them is taken apart into them.
theorem ofText?_laid {tokens : List Token} {chars : List Char} (h : Laid tokens chars)
    (hapart : Apart tokens) : ofText? chars = some tokens :=
  scanAll?_laid h hapart h.length_le

theorem Laid.append {first second : List Token} {chars rest : List Char} (h : Laid first chars)
    (hrest : Laid second rest) : Laid (first ++ second) (chars ++ rest) := by
  induction h with
  | @done space hblank =>
      cases hrest with
      | done hblank' => exact .done fun c hc => (List.mem_append.mp hc).elim (hblank c) (hblank' c)
      | @piece space' spelling chars token tokens hblank' hspelled h =>
          rw [List.nil_append, ← List.append_assoc]
          exact .piece (fun c hc => (List.mem_append.mp hc).elim (hblank c) (hblank' c)) hspelled h
  | piece hblank hspelled h ih =>
      rw [List.cons_append, List.append_assoc, List.append_assoc]
      exact .piece hblank hspelled ih

theorem Laid.single {token : Token} {spelling : List Char} (h : Spelled token spelling) :
    Laid [token] spelling := by
  have hlaid : Laid [token] ([] ++ (spelling ++ [])) :=
    .piece (fun _ hc => nomatch hc) h (.done fun _ hc => nomatch hc)
  rwa [List.nil_append, List.append_nil] at hlaid

end Token

end FramedLines.Json
