import Mathlib.Data.List.Forall2
import VersionedAssets.Json.Reader
import VersionedAssets.Proofs.Number.FloatText

/-! # Reading what was written

A JSON text is read as the value that it was written for. The escapes of a text are those of its
characters, a pair of units included; integers are told from floats, of which it is only known that
floats are read. The members of an object are found by their names and in their order.
-/

namespace VersionedAssets.Json

open Text

/-! ## Texts -/

theorem hexDigit?_hexDigit : ∀ n < 16, hexDigit? (Quoted.hexDigit n) = some n := by decide

/-- Four hexadecimal digits write a unit. -/
theorem readUnits_unitEscape {n : Nat} (hn : n < 0x10000) (done : List Nat) (rest : List Char) :
    readUnits done (unitEscape n ++ rest) = readUnits (n :: done) rest := by
  have hdigit (m : Nat) : hexDigit? (Quoted.hexDigit (m % 16)) = some (m % 16) :=
    hexDigit?_hexDigit _ (Nat.mod_lt m (by decide))
  have hunit : readUnit? (Quoted.hex 4 n) = some n := by
    simp only [readUnit?, Quoted.hex, List.nil_append, List.cons_append, List.foldlM_cons,
      List.foldlM_nil, hdigit, Option.map_some, Option.bind_eq_bind, Option.bind_some,
      Option.pure_def]
    refine congrArg some ?_
    omega
  change (do readUnits ((← readUnit? (Quoted.hex 4 n)) :: done) rest) = _
  rw [hunit]
  rfl

/-- No character is half of a pair of units. -/
theorem toNat_apart (c : Char) :
    ¬ (0xD800 ≤ c.toNat ∧ c.toNat < 0xE000) ∧ c.toNat < 0x110000 := by
  have hvalid : c.toNat < 0xD800 ∨ 0xDFFF < c.toNat ∧ c.toNat < 0x110000 := c.valid
  omega

theorem joinUnits_toNat_cons (c : Char) (rest : List Nat) :
    joinUnits (c.toNat :: rest) = c :: joinUnits rest := by
  have hapart := (toNat_apart c).1
  cases rest with
  | nil => simp [joinUnits, hapart]
  | cons low rest =>
      have hsingle : ¬ (0xD800 ≤ c.toNat ∧ c.toNat < 0xDC00 ∧ 0xDC00 ≤ low ∧ low < 0xE000) := by
        omega
      rw [joinUnits, if_neg hsingle, if_neg hapart, Char.ofNat_toNat]

theorem joinUnits_pair {c : Char} (hc : 0x10000 ≤ c.toNat) (rest : List Nat) :
    joinUnits ((0xD800 + (c.toNat - 0x10000) / 0x400) ::
      (0xDC00 + (c.toNat - 0x10000) % 0x400) :: rest) = c :: joinUnits rest := by
  have hbound := (toNat_apart c).2
  have hpair : 0x10000 + (0xD800 + (c.toNat - 0x10000) / 0x400 - 0xD800) * 0x400 +
      (0xDC00 + (c.toNat - 0x10000) % 0x400 - 0xDC00) = c.toNat := by omega
  rw [joinUnits, if_pos (by omega), hpair, Char.ofNat_toNat]

/-- A character that is neither a quote nor a backslash stands for itself. -/
theorem readUnits_cons {c : Char} (hc : ¬ (c = '"' ∨ c = '\\')) (done : List Nat)
    (rest : List Char) : readUnits done (c :: rest) = readUnits (c.toNat :: done) rest := by
  rw [not_or] at hc
  simp [readUnits, hc]

/-- A character is written with its units, and is all that they stand for. -/
theorem exists_units (ascii : Bool) (c : Char) :
    ∃ units : List Nat,
      (∀ done rest,
        readUnits done (escape ascii c ++ rest) = readUnits (units.reverse ++ done) rest) ∧
      ∀ more, joinUnits (units ++ more) = c :: joinUnits more := by
  unfold escape
  split_ifs with hquote hline hreturn htab hback hfeed hplain
  · refine ⟨[c.toNat], fun done rest => ?_, joinUnits_toNat_cons c⟩
    rcases hquote with rfl | rfl
    · rfl
    · rfl
  · subst hline
    exact ⟨[_], fun done rest => rfl, joinUnits_toNat_cons '\n'⟩
  · subst hreturn
    exact ⟨[_], fun done rest => rfl, joinUnits_toNat_cons '\r'⟩
  · subst htab
    exact ⟨[_], fun done rest => rfl, joinUnits_toNat_cons '\t'⟩
  · refine ⟨[c.toNat], fun done rest => ?_, joinUnits_toNat_cons c⟩
    rw [hback]
    rfl
  · refine ⟨[c.toNat], fun done rest => ?_, joinUnits_toNat_cons c⟩
    rw [hfeed]
    rfl
  · unfold unitsEscape
    dsimp only
    split
    next hsmall => exact ⟨[c.toNat], readUnits_unitEscape hsmall, joinUnits_toNat_cons c⟩
    next hlarge =>
      have hbound := (toNat_apart c).2
      refine ⟨[_, _], fun done rest => ?_, joinUnits_pair (by omega)⟩
      rw [List.append_assoc, readUnits_unitEscape (by omega), readUnits_unitEscape (by omega)]
      rfl
  · exact ⟨[c.toNat], readUnits_cons hquote, joinUnits_toNat_cons c⟩

/-- A text is read up to its closing quote. -/
theorem readText_escape (ascii : Bool) (s : String) (rest : List Char) :
    readText (s.toList.flatMap (escape ascii) ++ '"' :: rest) = some (s, rest) := by
  have hunits (cs : List Char) : ∃ units : List Nat,
      (∀ done, readUnits done (cs.flatMap (escape ascii) ++ '"' :: rest) =
        some (done.reverse ++ units, rest)) ∧ joinUnits units = cs := by
    induction cs with
    | nil => exact ⟨[], fun done => by simp [readUnits], rfl⟩
    | cons c cs ih =>
        obtain ⟨first, hfirst, hjoin⟩ := exists_units ascii c
        obtain ⟨units, hread, rfl⟩ := ih
        refine ⟨first ++ units, fun done => ?_, hjoin units⟩
        rw [List.flatMap_cons, List.append_assoc, hfirst, hread, List.reverse_append,
          List.reverse_reverse, List.append_assoc]
  obtain ⟨units, hread, hjoin⟩ := hunits s.toList
  rw [readText, hread, Option.map_some, List.reverse_nil, List.nil_append]
  dsimp only
  rw [hjoin, String.ofList_toList]

/-! ## Numerals -/

/-- A comma or a closing brace comes next, so that no numeral goes on. -/
def Ends (rest : List Char) : Prop := ∃ c after, rest = c :: after ∧ (c = ',' ∨ c = '\x7d')

theorem readDigits_append {digits : List Char} (hdigits : IsDecimal digits) {c : Char}
    (hc : isAsciiDigit c = false) (after : List Char) :
    readDigits (digits ++ c :: after) = some (digits, c :: after) := by
  have hnone : ¬ isAsciiDigit c = true := by simp [hc]
  have hempty : digits.isEmpty = false := by simp [hdigits.ne_nil]
  rw [readDigits, List.takeWhile_append_of_pos hdigits.digits,
    List.dropWhile_append_of_pos hdigits.digits, List.takeWhile_cons_of_neg hnone,
    List.dropWhile_cons_of_neg hnone, List.append_nil]
  simp [hempty]

theorem ofDigits_toDigits (n : Nat) : ofDigits (Nat.toDigits 10 n) = n :=
  @Nat.ofDigitChars_toDigits 10 n (by decide) (by decide)

section

variable {rest : List Char} (hrest : Ends rest)

include hrest

theorem readDigits_of_ends {digits : List Char} (hdigits : IsDecimal digits) :
    readDigits (digits ++ rest) = some (digits, rest) := by
  obtain ⟨c, after, rfl, rfl | rfl⟩ := hrest
  · exact readDigits_append hdigits (by decide) after
  · exact readDigits_append hdigits (by decide) after

theorem readFraction_of_ends : readFraction rest = some (none, rest) := by
  obtain ⟨c, after, rfl, rfl | rfl⟩ := hrest
  · rfl
  · rfl

theorem readExponent_of_ends : readExponent rest = some (none, rest) := by
  obtain ⟨c, after, rfl, rfl | rfl⟩ := hrest
  · rfl
  · rfl

theorem readExponent_eq {sign : Char} (hsign : sign = '-' ∨ sign = '+') {size : List Char}
    (hsize : IsDecimal size) :
    readExponent ('e' :: sign :: (size ++ rest)) =
      some (some (if sign = '-' then -(ofDigits size : Int) else ofDigits size), rest) := by
  have hread := readDigits_of_ends hrest hsize
  rcases hsign with rfl | rfl
  · simp [readExponent, hread]
  · simp [readExponent, hread]

/-- Digits alone are an integer. -/
theorem readMagnitude_toString (negative : Bool) (n : Nat) :
    readMagnitude negative ((toString n).toList ++ rest) =
      some (.int (if negative then -(n : Int) else n), rest) := by
  rw [readMagnitude, readDigits_of_ends hrest (isDecimal_toString n)]
  simp [readFraction_of_ends hrest, readExponent_of_ends hrest, ofDigits_toDigits]

/-- Digits with a point or a power of ten are a float. -/
theorem exists_readMagnitude_eq_float {numeral : List Char}
    (hnumeral : Number.IsFloatNumeral numeral) (negative : Bool) :
    ∃ x, readMagnitude negative (numeral ++ rest) = some (.float x, rest) := by
  cases hnumeral with
  | positional hwhole hplaces =>
      rw [List.append_assoc, List.cons_append, readMagnitude,
        readDigits_append hwhole (by decide)]
      simp [readFraction, readDigits_of_ends hrest hplaces, readExponent_of_ends hrest]
  | scientific hwhole hfraction hsign hsize =>
      have hexponent := readExponent_eq hrest hsign hsize
      simp only [List.append_assoc, List.cons_append]
      rcases hfraction with rfl | ⟨places, hplaces, rfl⟩
      · rw [List.nil_append, readMagnitude, readDigits_append hwhole (by decide)]
        simp [readFraction, hexponent]
      · rw [List.cons_append, readMagnitude, readDigits_append hwhole (by decide)]
        simp [readFraction, readDigits_append hplaces (show isAsciiDigit 'e' = false by decide),
          hexponent]

end

/-! ## Values -/

/-- The values are the same, or both of them are floats. -/
inductive Alike : Json → Json → Prop
  | same (value : Json) : Alike value value
  | float (x y : Float) : Alike (.float x) (.float y)

/-- Only floats can be alike without being the same. -/
theorem alike_iff_eq {value found : Json} (hvalue : ∀ x, value ≠ .float x) :
    value.Alike found ↔ found = value := by
  constructor
  · rintro ⟨_⟩
    · rfl
    · exact absurd rfl (hvalue _)
  · rintro rfl
    exact .same _

@[simp]
theorem alike_null_iff {found : Json} : null.Alike found ↔ found = null :=
  alike_iff_eq fun _ => Json.noConfusion

@[simp]
theorem alike_int_iff {n : Int} {found : Json} : (int n).Alike found ↔ found = int n :=
  alike_iff_eq fun _ => Json.noConfusion

@[simp]
theorem alike_text_iff {s : String} {found : Json} : (text s).Alike found ↔ found = text s :=
  alike_iff_eq fun _ => Json.noConfusion

/-- The value has no parts. -/
def IsScalar : Json → Prop
  | array _ | object _ => False
  | _ => True

theorem readValue_blank (fuel : Nat) (cs : List Char) :
    readValue (fuel + 1) (' ' :: cs) = readValue (fuel + 1) cs := by
  rw [readValue, readValue]
  rfl

theorem readWord_of_ne {word : String} {c d : Char} (hhead : word.toList.head? = some c)
    (hne : d ≠ c) (value : Json) (cs : List Char) : readWord word value (d :: cs) = none := by
  obtain ⟨more, hmore⟩ := List.head?_eq_some_iff.mp hhead
  have hprefix : word.toList.isPrefixOf (d :: cs) = false := by
    simp [hmore, List.isPrefixOf, Ne.symm hne]
  rw [readWord, hprefix]
  rfl

theorem skipMargin_cons {c : Char} (hc : isMargin c = false) (cs : List Char) :
    skipMargin (c :: cs) = c :: cs := List.dropWhile_cons_of_neg (by simp [hc])

theorem ne_of_isAsciiDigit {c d : Char} (hd : isAsciiDigit d = true)
    (hc : isAsciiDigit c = false) : d ≠ c := by
  rintro rfl
  rw [hd] at hc
  cases hc

theorem isMargin_of_isAsciiDigit {d : Char} (hd : isAsciiDigit d = true) : isMargin d = false := by
  rw [isAsciiDigit_iff] at hd
  have hne {c : Char} (hc : c.toNat < 0x30) : d ≠ c := by
    rintro rfl
    omega
  simp [isMargin, hne (show ' '.toNat < 0x30 by decide), hne (show '\t'.toNat < 0x30 by decide),
    hne (show '\n'.toNat < 0x30 by decide), hne (show '\r'.toNat < 0x30 by decide)]

/-- What starts with a digit is a numeral. -/
theorem readValue_digit {d : Char} (hd : isAsciiDigit d = true) (fuel : Nat) (cs : List Char) :
    readValue (fuel + 1) (d :: cs) = readMagnitude false (d :: cs) := by
  have hword (word : String) {c : Char} (hhead : word.toList.head? = some c)
      (hc : isAsciiDigit c = false) (value : Json) : readWord word value (d :: cs) = none :=
    readWord_of_ne hhead (ne_of_isAsciiDigit hd hc) value cs
  rw [readValue, skipMargin_cons (isMargin_of_isAsciiDigit hd)]
  split
  next heq => exact absurd (List.cons.inj heq).1 (ne_of_isAsciiDigit hd (by decide))
  next heq => exact absurd (List.cons.inj heq).1 (ne_of_isAsciiDigit hd (by decide))
  next heq => exact absurd (List.cons.inj heq).1 (ne_of_isAsciiDigit hd (by decide))
  next =>
    rw [hword "null" rfl (by decide), hword "true" rfl (by decide),
      hword "false" rfl (by decide), hword "NaN" rfl (by decide),
      hword "Infinity" rfl (by decide), hword "-Infinity" rfl (by decide)]
    unfold readNumber
    split
    next heq => exact absurd (List.cons.inj heq).1 (ne_of_isAsciiDigit hd (by decide))
    next => rfl

/-- A digit behind a minus sign starts a negative numeral. -/
theorem readValue_minus {d : Char} (hd : isAsciiDigit d = true) (fuel : Nat) (cs : List Char) :
    readValue (fuel + 1) ('-' :: d :: cs) = readMagnitude true (d :: cs) := by
  have hinfinity : readWord "-Infinity" (.float (-1 / 0)) ('-' :: d :: cs) = none := by
    have hne : 'I' ≠ d := (ne_of_isAsciiDigit hd (by decide)).symm
    simp [readWord, List.isPrefixOf, hne]
  have hword (word : String) {c : Char} (hhead : word.toList.head? = some c) (hc : '-' ≠ c)
      (value : Json) : readWord word value ('-' :: d :: cs) = none :=
    readWord_of_ne hhead hc value (d :: cs)
  rw [readValue, skipMargin_cons (by decide)]
  change (readWord "null" .null ('-' :: d :: cs)).or _ = _
  rw [hword "null" rfl (by decide), hword "true" rfl (by decide),
    hword "false" rfl (by decide), hword "NaN" rfl (by decide),
    hword "Infinity" rfl (by decide), hinfinity]
  rfl

/-- A numeral is read with its sign. -/
theorem readValue_signed {numeral : List Char}
    (hnumeral : ∃ d more, numeral = d :: more ∧ isAsciiDigit d = true) (negative : Bool)
    (fuel : Nat) (rest : List Char) :
    readValue (fuel + 1) ((if negative then ['-'] else []) ++ numeral ++ rest) =
      readMagnitude negative (numeral ++ rest) := by
  obtain ⟨d, more, rfl, hd⟩ := hnumeral
  cases negative with
  | false => exact readValue_digit hd fuel (more ++ rest)
  | true => exact readValue_minus hd fuel (more ++ rest)

theorem readValue_text (style : Style) (s : String) (fuel : Nat) (rest : List Char) :
    readValue (fuel + 1) ((writeText style s).toList ++ rest) = some (.text s, rest) := by
  rw [writeText, String.toList_ofList, List.append_assoc, List.cons_append, List.singleton_append,
    readValue, skipMargin_cons (by decide)]
  exact congrArg (Option.map _) (readText_escape style.ascii s rest)

section

variable {rest : List Char} (hrest : Ends rest)

include hrest

theorem readValue_int (n : Int) (fuel : Nat) :
    readValue (fuel + 1) ((toString n).toList ++ rest) = some (.int n, rest) := by
  cases n with
  | ofNat n =>
      have hsigned := readValue_signed (isDecimal_toString n).exists_cons false fuel rest
      exact hsigned.trans (readMagnitude_toString hrest false n)
  | negSucc n =>
      have hsigned := readValue_signed (isDecimal_toString (n + 1)).exists_cons true fuel rest
      rw [toList_toString_negSucc]
      exact hsigned.trans (readMagnitude_toString hrest true (n + 1))

theorem exists_readValue_float (style : Style) (depth : Nat) (x : Float) (fuel : Nat) :
    ∃ y, readValue (fuel + 1) ((writeAt style depth (.float x)).toList ++ rest) =
      some (.float y, rest) := by
  rw [writeAt]
  split
  next b hfinite =>
    obtain ⟨numeral, hnumeral, htext⟩ := Number.FloatText.exists_isFloatNumeral hfinite
    obtain ⟨y, hread⟩ := exists_readMagnitude_eq_float hrest hnumeral b.negative
    exact ⟨y, by rw [htext, readValue_signed hnumeral.exists_cons, hread]⟩
  next =>
    unfold Number.FloatText.ofInfinite
    split_ifs
    · exact ⟨_, rfl⟩
    · exact ⟨_, rfl⟩
    · exact ⟨_, rfl⟩

/-- A value without parts is read as it was written. -/
theorem exists_readValue (style : Style) (depth : Nat) {value : Json} (hscalar : value.IsScalar)
    (fuel : Nat) :
    ∃ found, value.Alike found ∧
      readValue (fuel + 1) ((writeAt style depth value).toList ++ rest) = some (found, rest) := by
  cases value with
  | null =>
      refine ⟨_, .same _, ?_⟩
      rw [writeAt]
      rfl
  | bool b =>
      refine ⟨_, .same _, ?_⟩
      rw [writeAt]
      cases b with
      | false => rfl
      | true => rfl
  | int n =>
      refine ⟨_, .same _, ?_⟩
      rw [writeAt, readValue_int hrest]
  | float x =>
      obtain ⟨y, hread⟩ := exists_readValue_float hrest style depth x fuel
      exact ⟨_, .float x y, hread⟩
  | text s =>
      refine ⟨_, .same _, ?_⟩
      rw [writeAt, readValue_text]
  | array items => exact hscalar.elim
  | object members => exact hscalar.elim

end

/-! ## Objects -/

theorem readMembers_blank (fuel : Nat) (done : List (String × Json)) (cs : List Char) :
    readMembers (fuel + 1) done (' ' :: cs) = readMembers (fuel + 1) done cs := by
  rw [readMembers, readMembers]
  rfl

/-- A member is its name and its value, and what follows tells whether there are more. -/
theorem readMembers_member (style : Style) (name : String) {literal : List Char} {found : Json}
    {rest : List Char} {fuel : Nat}
    (hvalue : readValue (fuel + 1) (literal ++ rest) = some (found, rest))
    (done : List (String × Json)) :
    readMembers (fuel + 2) done ((writeText style name).toList ++ ':' :: ' ' :: (literal ++ rest)) =
      match skipMargin rest with
      | ',' :: rest => readMembers (fuel + 1) ((name, found) :: done) rest
      | '\x7d' :: rest => some (.object ((name, found) :: done).reverse, rest)
      | _ => none := by
  have hname := readText_escape style.ascii name (':' :: ' ' :: (literal ++ rest))
  rw [writeText, String.toList_ofList, List.append_assoc, List.cons_append, List.singleton_append,
    readMembers, skipMargin_cons (by decide)]
  have hcolon := skipMargin_cons (show isMargin ':' = false by decide) (' ' :: (literal ++ rest))
  simp only [hname, hcolon, readValue_blank, hvalue, Option.bind_eq_bind, Option.bind_some]
  rfl

/-- The members are found in their order, with the values that they were written for. -/
def Finds (members found : List (String × Json)) : Prop :=
  List.Forall₂ (fun member other => member.1 = other.1 ∧ member.2.Alike other.2) members found

theorem toList_writeMembers_cons (style : Style) (depth : Nat) (name : String) (value : Json)
    {more : List (String × Json)} (hmore : more ≠ []) :
    (", ".intercalate (writeMembers style depth ((name, value) :: more))).toList =
      (writeText style name).toList ++ ':' :: ' ' :: ((writeAt style depth value).toList ++
        ',' :: ' ' :: (", ".intercalate (writeMembers style depth more)).toList) := by
  obtain ⟨⟨next, value'⟩, after, rfl⟩ := List.exists_cons_of_ne_nil hmore
  simp [writeMembers, String.toList_intercalate]

@[simp]
theorem finds_nil_iff {found : List (String × Json)} : Finds [] found ↔ [] = found :=
  List.forall₂_nil_left_iff.trans eq_comm

@[simp]
theorem finds_cons_iff {name : String} {value : Json} {members found : List (String × Json)} :
    Finds ((name, value) :: members) found ↔
      ∃ other, value.Alike other ∧ ∃ others, Finds members others ∧
        (name, other) :: others = found := by
  constructor
  · rintro (_ | ⟨⟨rfl, halike⟩, hothers⟩)
    exact ⟨_, halike, _, hothers, rfl⟩
  · rintro ⟨other, halike, others, hothers, rfl⟩
    exact .cons ⟨rfl, halike⟩ hothers

theorem exists_readMembers (style : Style) (depth : Nat) {members : List (String × Json)}
    (hne : members ≠ []) (hscalar : ∀ member ∈ members, member.2.IsScalar) {fuel : Nat}
    (hfuel : members.length < fuel) (done : List (String × Json)) (rest : List Char) :
    ∃ found, Finds members found ∧
      readMembers fuel done
          ((", ".intercalate (writeMembers style depth members)).toList ++ '\x7d' :: rest) =
        some (.object (done.reverse ++ found), rest) := by
  induction members generalizing fuel done with
  | nil => exact absurd rfl hne
  | cons member more ih =>
      obtain ⟨name, value⟩ := member
      obtain ⟨hvalue, hmore⟩ := List.forall_mem_cons.mp hscalar
      rw [List.length_cons] at hfuel
      obtain ⟨fuel, rfl⟩ : ∃ k, fuel = k + 2 := ⟨fuel - 2, by omega⟩
      -- behind the last value stands the closing brace, behind all others a comma
      by_cases hlast : more = []
      · subst hlast
        obtain ⟨found, halike, hread⟩ :=
          exists_readValue ⟨_, rest, rfl, .inr rfl⟩ style depth hvalue fuel
        refine ⟨[(name, found)], .cons ⟨rfl, halike⟩ .nil, ?_⟩
        simpa [writeMembers, skipMargin, isMargin] using readMembers_member style name hread done
      · obtain ⟨found, halike, hread⟩ :=
          exists_readValue ⟨',', _, rfl, .inl rfl⟩ style depth hvalue fuel
        obtain ⟨others, hothers, hrest⟩ :=
          ih hlast hmore (show more.length < fuel + 1 by omega) ((name, found) :: done)
        refine ⟨(name, found) :: others, .cons ⟨rfl, halike⟩ hothers, ?_⟩
        rw [toList_writeMembers_cons style depth name value hlast, List.append_assoc,
          List.cons_append, List.cons_append, List.append_assoc, List.cons_append,
          List.cons_append, readMembers_member style name hread, skipMargin_cons (by decide)]
        refine (readMembers_blank _ _ _).trans ?_
        rw [hrest, List.reverse_cons, List.append_assoc, List.singleton_append]

theorem length_writeMembers (style : Style) (depth : Nat) (members : List (String × Json)) :
    (writeMembers style depth members).length = members.length := by
  induction members with
  | nil => rfl
  | cons member more ih => rw [writeMembers, List.length_cons, List.length_cons, ih]

theorem length_lt_length_intercalate {texts : List String} (hne : texts ≠ []) :
    texts.length < (", ".intercalate texts).toList.length + 2 := by
  rw [String.toList_intercalate]
  induction texts with
  | nil => exact absurd rfl hne
  | cons text more ih =>
      cases more with
      | nil => simp
      | cons next after =>
          have hmore := ih (List.cons_ne_nil _ _)
          have hcomma : ", ".toList.length = 2 := by decide
          simp only [List.map_cons, List.intercalate_cons_cons, List.length_append,
            List.length_cons] at hmore ⊢
          omega

/-- An object is read as its members, if there are any. -/
theorem readValue_object (fuel : Nat) (inner : List Char) :
    readValue (fuel + 1) ('\x7b' :: '"' :: inner) = readMembers fuel [] ('"' :: inner) := by
  rw [readValue, skipMargin_cons (by decide)]
  rfl

/-- An object on one line is read as its members. -/
theorem exists_read?_object {style : Style} (hline : style.indent = none)
    {members : List (String × Json)} (hne : members ≠ [])
    (hscalar : ∀ member ∈ members, member.2.IsScalar) :
    ∃ found, Finds members found ∧ read? ((object members).write style) = some (.object found) := by
  have htexts : writeMembers style 1 members ≠ [] := by
    rwa [Ne, ← List.length_eq_zero_iff, length_writeMembers, List.length_eq_zero_iff]
  have htext : ((object members).write style).toList = '\x7b' ::
      ((", ".intercalate (writeMembers style 1 members)).toList ++ ['\x7d']) := by
    simp [write, writeAt, enclose, lineStart, separator, hline, htexts]
  obtain ⟨inner, hinner⟩ :
      ∃ inner, (", ".intercalate (writeMembers style 1 members)).toList = '"' :: inner := by
    obtain ⟨⟨name, value⟩, more, rfl⟩ := List.exists_cons_of_ne_nil hne
    simp [writeMembers, writeText, String.toList_intercalate]
  have hlength := congrArg List.length htext
  have hfuel := length_lt_length_intercalate htexts
  rw [length_writeMembers] at hfuel
  rw [List.length_cons, List.length_append, List.length_singleton, String.length_toList] at hlength
  obtain ⟨found, hfound, hread⟩ := exists_readMembers style 1 hne hscalar
    (show members.length < ((object members).write style).length by omega) [] []
  refine ⟨found, hfound, ?_⟩
  rw [hinner, List.cons_append] at htext hread
  rw [read?, htext, readValue_object, hread]
  rfl

end VersionedAssets.Json
