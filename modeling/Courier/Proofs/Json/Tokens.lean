import Courier.Json.Printer
import Courier.Json.Token
import Courier.Text.Digits

/-!
# The tokens of a printed value

What the printer writes, the token machine takes apart again. A number is the only token whose end
is not its own: the machine has to see what follows, which in a printed text is nothing, a comma or
a closing bracket.

Doubles are left out: their spelling is a matter of its own.

## Main definitions

* `Value.isExact`: the numbers of a value are integers of 64 bits.
* `Value.tokens`: the tokens of a value.
* `Ending`: what may follow a value.
* `tokensFrom_chars`: the tokens of a printed value.
-/

namespace Courier.Json

variable {units : List (Option Char)}

/-- The text goes on with nothing that could belong to a number. -/
def Ending : List (Option Char) → Prop
  | [] => True
  | unit :: _ => unit = some ',' ∨ unit = some ']' ∨ unit = some '\x7d'

/-! ## Strings -/

/-- A character that stands for itself. -/
theorem tokensFrom_plain {c : Char} {acc : List Char} (hquote : c ≠ '"') (hslash : c ≠ '\\')
    (hcontrol : ¬ c.toNat < 0x20) :
    tokensFrom (.string .plain none (some acc)) (some c :: units) =
      tokensFrom (.string .plain none (some (c :: acc))) units := by
  have hstep : step (.string .plain none (some acc)) (some c) =
      ([], .string .plain none (some (c :: acc))) := by
    simp only [step, stepString]
    split <;> simp_all [append]
  rw [tokensFrom, hstep, List.nil_append]

/-- An escape of one letter. -/
theorem tokensFrom_escape {c d : Char} {acc : List Char} (h : escape? d = some c)
    (hcode : d ≠ 'u') :
    tokensFrom (.string .plain none (some acc)) (some '\\' :: some d :: units) =
      tokensFrom (.string .plain none (some (c :: acc))) units := by
  have hstep : step (.string .escape none (some acc)) (some d) =
      ([], .string .plain none (some (c :: acc))) := by
    simp only [step, stepString]
    split <;> simp_all [append]
  rw [tokensFrom, tokensFrom]
  show ([] : List Token) ++ ((step (.string .escape none (some acc)) (some d)).1 ++
    tokensFrom (step (.string .escape none (some acc)) (some d)).2 units) = _
  rw [hstep, List.nil_append, List.nil_append]

theorem hexDigit?_digitChar {n : Nat} (h : n < 16) : hexDigit? (Nat.digitChar n) = some n := by
  have hall : ∀ n < 16, hexDigit? (Nat.digitChar n) = some n := by decide
  exact hall n h

/-- A digit of an escape, and not its last. -/
theorem tokensFrom_digit {c : Char} {d remaining number : Nat} {acc : List Char}
    (h : hexDigit? c = some d) (more : 1 < remaining) :
    tokensFrom (.string (.code remaining number) none (some acc)) (some c :: units) =
      tokensFrom (.string (.code (remaining - 1) (number * 16 + d)) none (some acc)) units := by
  have hstep : step (.string (.code remaining number) none (some acc)) (some c) =
      ([], .string (.code (remaining - 1) (number * 16 + d)) none (some acc)) := by
    simp only [step, stepString, h]
    rw [if_neg (by omega)]
  rw [tokensFrom, hstep, List.nil_append]

/-- The last digit of an escape, of a character that is no surrogate. -/
theorem tokensFrom_lastDigit {c : Char} {d number : Nat} {acc : List Char}
    (h : hexDigit? c = some d) (small : number * 16 + d < 0xD800) :
    tokensFrom (.string (.code 1 number) none (some acc)) (some c :: units) =
      tokensFrom (.string .plain none (some (Char.ofNat (number * 16 + d) :: acc))) units := by
  have hstep : step (.string (.code 1 number) none (some acc)) (some c) =
      ([], .string .plain none (some (Char.ofNat (number * 16 + d) :: acc))) := by
    simp only [step, stepString, h]
    rw [if_pos (Nat.le_refl 1), appendCode, if_neg (by omega), if_neg (by omega)]
    rfl
  rw [tokensFrom, hstep, List.nil_append]

/-- An escape of four digits. -/
theorem tokensFrom_code {n : Nat} {acc : List Char} (h : n < 0x20) :
    tokensFrom (.string .plain none (some acc))
        (some '\\' :: some 'u' :: some '0' :: some '0' :: some (Nat.digitChar (n / 16)) ::
          some (Nat.digitChar (n % 16)) :: units) =
      tokensFrom (.string .plain none (some (Char.ofNat n :: acc))) units := by
  have hopen (rest : List (Option Char)) :
      tokensFrom (.string .plain none (some acc)) (some '\\' :: some 'u' :: rest) =
        tokensFrom (.string (.code 4 0) none (some acc)) rest := rfl
  rw [hopen, tokensFrom_digit (d := 0) rfl (by omega), tokensFrom_digit (d := 0) rfl (by omega),
    tokensFrom_digit (hexDigit?_digitChar (by omega)) (by omega),
    tokensFrom_lastDigit (hexDigit?_digitChar (by omega)) (by omega)]
  have hsum : ((0 * 16 + 0) * 16 + 0) * 16 + n / 16 = n / 16 := by omega
  rw [hsum, Nat.div_add_mod' n 16]

/-- The machine reads a character as the printer writes it. -/
theorem tokensFrom_escape_append (c : Char) (acc : List Char) :
    tokensFrom (.string .plain none (some acc)) ((escape c).map some ++ units) =
      tokensFrom (.string .plain none (some (c :: acc))) units := by
  unfold escape
  by_cases hquote : c = '"'
  · subst hquote
    exact tokensFrom_escape rfl (by decide)
  rw [if_neg hquote]
  by_cases hslash : c = '\\'
  · subst hslash
    exact tokensFrom_escape rfl (by decide)
  rw [if_neg hslash]
  by_cases hback : c = '\x08'
  · subst hback
    exact tokensFrom_escape rfl (by decide)
  rw [if_neg hback]
  by_cases hfeed : c = '\x0c'
  · subst hfeed
    exact tokensFrom_escape rfl (by decide)
  rw [if_neg hfeed]
  by_cases hline : c = '\n'
  · subst hline
    exact tokensFrom_escape rfl (by decide)
  rw [if_neg hline]
  by_cases hreturn : c = '\r'
  · subst hreturn
    exact tokensFrom_escape rfl (by decide)
  rw [if_neg hreturn]
  by_cases htab : c = '\t'
  · subst htab
    exact tokensFrom_escape rfl (by decide)
  rw [if_neg htab]
  by_cases hcontrol : c.toNat < 0x20
  · rw [if_pos hcontrol]
    have hcode := @tokensFrom_code units c.toNat acc hcontrol
    rwa [Char.ofNat_toNat] at hcode
  · rw [if_neg hcontrol]
    exact tokensFrom_plain hquote hslash hcontrol

/-- The characters of a string, one after the other. -/
theorem tokensFrom_flatMap_escape (cs acc : List Char) :
    tokensFrom (.string .plain none (some acc)) ((cs.flatMap escape).map some ++ units) =
      tokensFrom (.string .plain none (some (cs.reverse ++ acc))) units := by
  induction cs generalizing acc with
  | nil => rfl
  | cons c cs ih =>
    rw [List.flatMap_cons, List.map_append, List.append_assoc, tokensFrom_escape_append, ih,
      List.reverse_cons, List.append_assoc, List.singleton_append]

/-- A string in its quotes is one token. -/
theorem tokensFrom_quoted (s : String) :
    tokensFrom .between ((quoted s).map some ++ units) =
      .string (some s) :: tokensFrom .between units := by
  have hopen (rest : List (Option Char)) : tokensFrom .between (some '"' :: rest) =
      tokensFrom (.string .plain none (some [])) rest := rfl
  have hclose (acc : List Char) :
      tokensFrom (.string .plain none (some acc)) (some '"' :: units) =
        .string (some (String.ofList acc.reverse)) :: tokensFrom .between units := rfl
  simp only [quoted, List.map_append, List.map_cons, List.map_nil, List.cons_append,
    List.append_assoc, List.nil_append]
  rw [hopen, tokensFrom_flatMap_escape, hclose, List.append_nil, List.reverse_reverse,
    String.ofList_toList]

/-! ## Numbers -/

/-- The number is an integer of 64 bits. -/
def Number.isExact : Number → Bool
  | .natural n => n < UInt64.size
  | .negative n => 0 < n && n ≤ UInt64.size / 2
  | .double _ => false

/-- A number ends where nothing can belong to it. -/
theorem tokensFrom_ending {place : Place} {text : NumberText} (final : place.isFinal)
    (h : Ending units) :
    tokensFrom (.number place text) units = .number text.value? :: tokensFrom .between units := by
  cases units with
  | nil =>
    rw [tokensFrom, finish, if_pos final]
    rfl
  | cons unit units =>
    have hstep : step (.number place text) unit =
        (.number text.value? :: (begin unit).1, (begin unit).2) := by
      rcases h with rfl | rfl | rfl <;> simp [step, stepNumber, final]
    rw [tokensFrom, tokensFrom, hstep]
    rfl

/-- One more digit of a number. -/
theorem step_whole {negative : Bool} {digits : List Nat} {d : Nat} (h : d < 10) :
    step (.number .whole ⟨negative, digits, none, none⟩) (some (Nat.digitChar d)) =
      ([], .number .whole ⟨negative, d :: digits, none, none⟩) := by
  have hdigit : (Nat.digitChar d).isDigit = true := by rw [Nat.isDigit_digitChar, decide_eq_true h]
  simp [step, stepNumber, hdigit, Text.digitChar_toNat_sub h, digit?]

/-- A positive number, from a state that its first digit leads among its digits. -/
theorem exists_digits {n : Nat} (hpos : 0 < n) {negative : Bool} {state : State}
    (first : ∀ d < 10, 0 < d → step state (some (Nat.digitChar d)) =
      ([], .number .whole ⟨negative, [d], none, none⟩)) :
    ∃ digits, ofDigits digits = n ∧ ∀ units,
      tokensFrom state ((naturalChars n).map some ++ units) =
        tokensFrom (.number .whole ⟨negative, digits, none, none⟩) units := by
  induction n using Nat.strongRecOn with
  | ind n ih =>
    unfold naturalChars
    by_cases hsmall : n < 10
    · refine ⟨[n], by simp [ofDigits], fun units => ?_⟩
      rw [Nat.toDigits_of_lt_base hsmall, List.map_singleton, List.singleton_append, tokensFrom,
        first n hsmall hpos, List.nil_append]
    · obtain ⟨digits, hvalue, hread⟩ := ih (n / 10) (by omega) (by omega)
      have hmod : n % 10 < 10 := by omega
      refine ⟨n % 10 :: digits, ?_, fun units => ?_⟩
      · have hcons : ofDigits (n % 10 :: digits) = ofDigits digits * 10 + n % 10 := rfl
        rw [hcons, hvalue]
        omega
      · rw [Nat.toDigits_of_base_le (by decide) (by omega), List.map_append, List.append_assoc]
        have htail := hread ([n % 10].map (some ∘ Nat.digitChar) ++ units)
        unfold naturalChars at htail
        rw [List.map_singleton, List.singleton_append] at htail
        rw [List.map_singleton, List.singleton_append]
        refine htail.trans ?_
        rw [Function.comp_apply, tokensFrom, step_whole hmod, List.nil_append]

/-- Digits without a sign spell a natural number. -/
theorem value?_whole {digits : List Nat} (h : ofDigits digits < UInt64.size) :
    NumberText.value? ⟨false, digits, none, none⟩ = some (.natural (ofDigits digits)) := by
  unfold NumberText.value?
  rw [if_pos ⟨rfl, rfl⟩]
  exact if_pos ⟨Bool.false_ne_true, h⟩

/-- Digits after a sign spell a negative number. -/
theorem value?_minus {digits : List Nat} (hpos : 0 < ofDigits digits)
    (h : ofDigits digits ≤ UInt64.size / 2) :
    NumberText.value? ⟨true, digits, none, none⟩ = some (.negative (ofDigits digits)) := by
  unfold NumberText.value?
  rw [if_pos ⟨rfl, rfl⟩]
  exact (if_neg fun hn => hn.1 rfl).trans (if_pos ⟨rfl, hpos, h⟩)

/-- A number is one token, if its end is to be seen. -/
theorem tokensFrom_number {n : Number} (exact : n.isExact) (h : Ending units) :
    tokensFrom .between (n.chars.map some ++ units) =
      .number (some n) :: tokensFrom .between units := by
  cases n with
  | natural n =>
    have hbound : n < UInt64.size := of_decide_eq_true exact
    by_cases hzero : n = 0
    · subst hzero
      have hopen : tokensFrom .between ((Number.natural 0).chars.map some ++ units) =
          tokensFrom (.number .zero ⟨false, [0], none, none⟩) units := rfl
      rw [hopen, tokensFrom_ending rfl h]
      rfl
    · have hfirst : ∀ d < 10, 0 < d → step .between (some (Nat.digitChar d)) =
          ([], .number .whole ⟨false, [d], none, none⟩) := by decide
      obtain ⟨digits, hvalue, hread⟩ := exists_digits (Nat.pos_of_ne_zero hzero) hfirst
      rw [Number.chars, hread, tokensFrom_ending rfl h, value?_whole (hvalue ▸ hbound), hvalue]
  | negative n =>
    have hbounds : 0 < n ∧ n ≤ UInt64.size / 2 := by simpa [Number.isExact] using exact
    have hfirst : ∀ d < 10, 0 < d →
        step (.number .sign ⟨true, [], none, none⟩) (some (Nat.digitChar d)) =
          ([], .number .whole ⟨true, [d], none, none⟩) := by decide
    obtain ⟨digits, hvalue, hread⟩ := exists_digits hbounds.1 hfirst
    have hnumber : NumberText.value? ⟨true, digits, none, none⟩ = some (.negative n) := by
      rw [value?_minus (hvalue ▸ hbounds.1) (hvalue ▸ hbounds.2), hvalue]
    have hopen (rest : List (Option Char)) : tokensFrom .between (some '-' :: rest) =
        tokensFrom (.number .sign ⟨true, [], none, none⟩) rest := rfl
    rw [Number.chars, List.map_cons, List.cons_append, hopen, hread, tokensFrom_ending rfl h,
      hnumber]
  | double x => exact absurd exact Bool.false_ne_true

/-! ## Values -/

namespace Value

mutual

/-- All numbers of a value are integers of 64 bits. -/
def isExact : Value → Bool
  | .number n => n.isExact
  | .array items => areExact items
  | .object members => membersAreExact members
  | _ => true

/-- All numbers of the items are integers of 64 bits. -/
def areExact : List Value → Bool
  | [] => true
  | v :: vs => isExact v && areExact vs

/-- All numbers of the members are integers of 64 bits. -/
def membersAreExact : List (String × Value) → Bool
  | [] => true
  | (_, v) :: members => isExact v && membersAreExact members

end

mutual

/-- The tokens of a value. -/
def tokens : Value → List Token
  | .null => [.null]
  | .bool b => [.bool b]
  | .number n => [.number (some n)]
  | .string s => [.string (some s)]
  | .array items => .openArray :: itemsTokens true items ++ [.closeArray]
  | .object members => .openObject :: membersTokens true members ++ [.closeObject]

/-- The tokens of the items of an array. -/
def itemsTokens : Bool → List Value → List Token
  | _, [] => []
  | first, v :: vs => (if first then [] else [.comma]) ++ tokens v ++ itemsTokens false vs

/-- The tokens of the members of an object. -/
def membersTokens : Bool → List (String × Value) → List Token
  | _, [] => []
  | first, (name, v) :: members =>
    (if first then [] else [.comma]) ++ .string (some name) :: .colon :: tokens v ++
      membersTokens false members

end

end Value

/-- A comma may stand before all items but the first. -/
theorem tokensFrom_comma (first : Bool) :
    tokensFrom .between ((if first then [] else [',']).map some ++ units) =
      (if first then [] else [Token.comma]) ++ tokensFrom .between units := by
  cases first <;> rfl

theorem ending_items (items : List Value) :
    Ending ((Value.itemsChars false items).map some ++ some ']' :: units) := by
  cases items with
  | nil => exact .inr (.inl rfl)
  | cons v vs => exact .inl rfl

theorem ending_members (members : List (String × Value)) :
    Ending ((Value.membersChars false members).map some ++ some '\x7d' :: units) := by
  cases members with
  | nil => exact .inr (.inr rfl)
  | cons m members => exact .inl rfl

mutual

/-- The machine takes a printed value apart into its tokens. -/
theorem tokensFrom_chars : ∀ (v : Value), v.isExact → ∀ {units : List (Option Char)},
    Ending units →
      tokensFrom .between (v.chars.map some ++ units) = v.tokens ++ tokensFrom .between units
  | .null, _, _, _ => rfl
  | .bool true, _, _, _ => rfl
  | .bool false, _, _, _ => rfl
  | .number n, exact, _, h => by
    rw [Value.chars, tokensFrom_number (by simpa [Value.isExact] using exact) h]
    rfl
  | .string s, _, _, _ => by
    rw [Value.chars, tokensFrom_quoted]
    rfl
  | .array items, exact, units, _ => by
    have hopen (rest : List (Option Char)) :
        tokensFrom .between (some '[' :: rest) = .openArray :: tokensFrom .between rest := rfl
    have hclose :
        tokensFrom .between (some ']' :: units) = .closeArray :: tokensFrom .between units := rfl
    have hitems := @tokensFrom_itemsChars items (by simpa [Value.isExact] using exact) true units
    simp only [Value.chars, Value.tokens, List.map_append, List.map_cons, List.map_nil,
      List.cons_append, List.append_assoc, List.nil_append]
    rw [hopen, hitems, hclose]
  | .object members, exact, units, _ => by
    have hopen (rest : List (Option Char)) :
        tokensFrom .between (some '\x7b' :: rest) = .openObject :: tokensFrom .between rest := rfl
    have hclose :
        tokensFrom .between (some '\x7d' :: units) = .closeObject :: tokensFrom .between units :=
      rfl
    have hmembers :=
      @tokensFrom_membersChars members (by simpa [Value.isExact] using exact) true units
    simp only [Value.chars, Value.tokens, List.map_append, List.map_cons, List.map_nil,
      List.cons_append, List.append_assoc, List.nil_append]
    rw [hopen, hmembers, hclose]

/-- The items of an array, up to its closing bracket. -/
theorem tokensFrom_itemsChars : ∀ (items : List Value), Value.areExact items → ∀ (first : Bool)
    {units : List (Option Char)},
    tokensFrom .between ((Value.itemsChars first items).map some ++ some ']' :: units) =
      Value.itemsTokens first items ++ tokensFrom .between (some ']' :: units)
  | [], _, _, _ => rfl
  | v :: vs, exact, first, units => by
    obtain ⟨hv, hvs⟩ : v.isExact ∧ Value.areExact vs := by simpa [Value.areExact] using exact
    rw [Value.itemsChars, Value.itemsTokens, List.map_append, List.map_append, List.append_assoc,
      List.append_assoc, tokensFrom_comma, tokensFrom_chars v hv (ending_items vs),
      tokensFrom_itemsChars vs hvs false]
    simp only [List.append_assoc]

/-- The members of an object, up to its closing brace. -/
theorem tokensFrom_membersChars : ∀ (members : List (String × Value)),
    Value.membersAreExact members → ∀ (first : Bool) {units : List (Option Char)},
    tokensFrom .between ((Value.membersChars first members).map some ++ some '\x7d' :: units) =
      Value.membersTokens first members ++ tokensFrom .between (some '\x7d' :: units)
  | [], _, _, _ => rfl
  | (name, v) :: members, exact, first, units => by
    obtain ⟨hv, hmembers⟩ : v.isExact ∧ Value.membersAreExact members := by
      simpa [Value.membersAreExact] using exact
    have hcolon (rest : List (Option Char)) :
        tokensFrom .between (some ':' :: rest) = .colon :: tokensFrom .between rest := rfl
    have hvalue := tokensFrom_chars v hv (@ending_members units members)
    rw [Value.membersChars, Value.membersTokens]
    simp only [List.map_append, List.map_cons, List.cons_append, List.append_assoc]
    rw [tokensFrom_comma, tokensFrom_quoted, hcolon, hvalue, tokensFrom_membersChars members
      hmembers false]

end

/-- The tokens of a printed value are its own. -/
theorem tokens_chars {v : Value} (exact : v.isExact) :
    Json.tokens (v.chars.map some) = v.tokens := by
  have h := @tokensFrom_chars v exact [] trivial
  rw [List.append_nil] at h
  rw [Json.tokens, h]
  exact List.append_nil _

end Courier.Json
