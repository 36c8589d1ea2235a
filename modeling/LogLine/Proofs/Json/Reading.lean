-- SUMMARY: Reading JSON objects of strings, and that reading gives back what was written.
import LogLine.Proofs.Text.Parts
import LogLine.Render.Json

/-!
# Reading JSON

A JSON text is read here as far as its values are strings: one object, with white space
anywhere between its tokens, and with every escape that a string may have. Members come
out in the order in which they stand, also if a key is repeated; anything else is
refused. What is written for an object has no control characters in it, and reads as the
members that it was written for.
-/

namespace LogLine.Json

/-! ## Tokens -/

inductive Token where
  /-- A brace, a colon or a comma. -/
  | mark (c : Char)
  | string (t : Text)
deriving DecidableEq, Repr

def isSpace (c : Char) : Bool := c == ' ' || c == '\t' || c == '\n' || c == '\r'

def isMark (c : Char) : Bool := c == '\x7b' || c == '\x7d' || c == ':' || c == ','

/-- The character that a backslash and a single character after it stand for. -/
def shortEscape? : Char → Option Char
  | '"' => some '"'
  | '\\' => some '\\'
  | '/' => some '/'
  | 'b' => some '\x08'
  | 'f' => some '\x0c'
  | 'n' => some '\n'
  | 'r' => some '\r'
  | 't' => some '\t'
  | _ => none

/-- The character of a pair of surrogates. -/
def surrogates? (high low : Nat) : Option Char :=
  if 0xd800 ≤ high ∧ high ≤ 0xdbff ∧ 0xdc00 ≤ low ∧ low ≤ 0xdfff then
    some (Char.ofNat (0x10000 + (high - 0xd800) * 0x400 + (low - 0xdc00)))
  else none

/-- The tokens of a text. Inside a string it goes on from the characters that were read of it, the
    latest first. -/
def tokensAfter? : (read : Option Text) → Text → Option (List Token)
  | none, [] => some []
  | none, '"' :: rest => tokensAfter? (some []) rest
  | none, c :: rest =>
    if isSpace c then tokensAfter? none rest
    else if isMark c then (tokensAfter? none rest).map (.mark c :: ·)
    else none
  | some _, [] => none
  | some read, '"' :: rest => (tokensAfter? none rest).map (.string read.reverse :: ·)
  | some read, '\\' :: 'u' :: a :: b :: c :: d :: rest =>
    match Text.number? 16 [a, b, c, d] with
    | none => none
    | some unit =>
      if unit < 0xd800 ∨ 0xdfff < unit then tokensAfter? (some (Char.ofNat unit :: read)) rest
      else
        match rest with
        | '\\' :: 'u' :: a :: b :: c :: d :: rest =>
          match (Text.number? 16 [a, b, c, d]).bind (surrogates? unit) with
          | none => none
          | some character => tokensAfter? (some (character :: read)) rest
        | _ => none
  | some read, '\\' :: c :: rest =>
    match shortEscape? c with
    | none => none
    | some character => tokensAfter? (some (character :: read)) rest
  | some read, c :: rest =>
    if c.toNat < 0x20 then none else tokensAfter? (some (c :: read)) rest

def tokens? (t : Text) : Option (List Token) := tokensAfter? none t

/-! ## Objects -/

/-- The members of an object, one at least, from its first key to its end. -/
def members? : List Token → Option (List (Text × Text))
  | [.string key, .mark ':', .string value, .mark '\x7d'] => some [(key, value)]
  | .string key :: .mark ':' :: .string value :: .mark ',' :: rest =>
    (members? rest).map ((key, value) :: ·)
  | _ => none

/-- The members of the object that a text is, in their order. -/
def read (t : Text) : Option (List (Text × Text)) :=
  match tokens? t with
  | some [.mark '\x7b', .mark '\x7d'] => some []
  | some (.mark '\x7b' :: rest) => members? rest
  | _ => none

/-! ## Tokens that were written -/

theorem tokensAfter?_mark {c : Char} (h : isMark c = true) (rest : Text) :
    tokensAfter? none (c :: rest) = (tokensAfter? none rest).map (.mark c :: ·) := by
  simp only [isMark, Bool.or_eq_true, beq_iff_eq] at h
  rcases h with ((rfl | rfl) | rfl) | rfl <;> rfl

theorem number?_hexDigits {n : Nat} (h : n < 0x20) :
    Text.number? 16 ['0', '0', hexDigit (n / 16), hexDigit (n % 16)] = some n := by
  have hall : ∀ n < 0x20,
      Text.number? 16 ['0', '0', hexDigit (n / 16), hexDigit (n % 16)] = some n := by decide
  exact hall n h

/-- Inside a string, what is written for a character reads as that character. -/
theorem tokensAfter?_escapeChar (read : Text) (c : Char) (rest : Text) :
    tokensAfter? (some read) (escapeChar c ++ rest) = tokensAfter? (some (c :: read)) rest := by
  unfold escapeChar
  split
  -- Escapes of one letter can be computed; they leave control characters and plain ones.
  case h_8 hquote hbackslash _ _ _ _ _ =>
    split
    · next hcontrol =>
      have hunit : c.toNat < 0xd800 ∨ 0xdfff < c.toNat := .inl (by omega)
      simp only [List.cons_append, List.nil_append, tokensAfter?, number?_hexDigits hcontrol,
        if_pos hunit, Char.ofNat_toNat]
    · next hshown =>
      rw [List.singleton_append, tokensAfter?, if_neg hshown]
      · exact hquote
      · exact fun _ _ _ _ _ h => absurd h hbackslash
      · exact fun _ _ h => absurd h hbackslash
  all_goals rfl

/-- A string reads as one token, whatever text it was written for. -/
theorem tokensAfter?_string (t rest : Text) :
    tokensAfter? none (string t ++ rest) = (tokensAfter? none rest).map (.string t :: ·) := by
  have hbody (read : Text) : tokensAfter? (some read) (t.flatMap escapeChar ++ '"' :: rest) =
      tokensAfter? (some (t.reverse ++ read)) ('"' :: rest) := by
    induction t generalizing read with
    | nil => rfl
    | cons c t ih =>
      rw [List.flatMap_cons, List.append_assoc, tokensAfter?_escapeChar, ih, List.reverse_cons,
        List.append_assoc, List.singleton_append]
  rw [string, List.append_assoc, List.cons_append, tokensAfter?, List.singleton_append, hbody,
    List.append_nil, tokensAfter?, List.reverse_reverse]

/-! ## Objects that were written -/

theorem tokensAfter?_member (m : Text × Text) (rest : Text) :
    tokensAfter? none ((string m.1 ++ ':' :: string m.2) ++ rest) =
      (tokensAfter? none rest).map fun tokens =>
        .string m.1 :: .mark ':' :: .string m.2 :: tokens := by
  rw [List.append_assoc, tokensAfter?_string, List.cons_append, tokensAfter?_mark rfl,
    tokensAfter?_string, Option.map_map, Option.map_map]
  rfl

/-- What is written for members, up to the end of the object, reads as these members. -/
theorem members?_join (m : Text × Text) (ms : List (Text × Text)) :
    (tokensAfter? none (Text.join [','] ((m :: ms).map fun m => string m.1 ++ ':' :: string m.2) ++
      ['\x7d'])).bind members? = some (m :: ms) := by
  induction ms generalizing m with
  | nil =>
    rw [List.map_singleton, Text.join_singleton, tokensAfter?_member]
    rfl
  | cons n ms ih =>
    obtain ⟨tokens, htokens, hmembers⟩ := Option.bind_eq_some_iff.mp (ih n)
    rw [List.map_cons] at htokens
    rw [List.map_cons, List.map_cons, Text.join_cons_cons, List.append_assoc, tokensAfter?_member,
      List.cons_append, tokensAfter?_mark rfl, htokens]
    calc members? (.string m.1 :: .mark ':' :: .string m.2 :: .mark ',' :: tokens)
      _ = (members? tokens).map (m :: ·) := by rw [members?]
      _ = some (m :: n :: ms) := by rw [hmembers, Option.map_some]

/-- What is written for an object reads as the members that it was written for. -/
theorem read_object (members : List (Text × Text)) : read (object members) = some members := by
  cases members with
  | nil => rfl
  | cons m ms =>
    obtain ⟨tokens, htokens, hmembers⟩ := Option.bind_eq_some_iff.mp (members?_join m ms)
    have hobject : tokens? (object (m :: ms)) = some (.mark '\x7b' :: tokens) := by
      rw [tokens?, object, List.cons_append, tokensAfter?_mark rfl, htokens, Option.map_some]
    rw [read, hobject]
    split
    · next hempty =>
      cases hempty
      cases hmembers
    · next hrest =>
      cases hrest
      exact hmembers
    · next hnone => exact absurd rfl (hnone tokens)

/-! An object that was written another way, with a key twice. -/

example : read "\x7b \"a\\u00e9\" :\"\\ud83d\\ude00\\/\" , \"a\\u00e9\":\"\"\x7d\n".toList =
    some [("aé".toList, "😀/".toList), ("aé".toList, [])] := by
  decide +kernel

/-! ## Characters -/

theorem le_toNat_of_mem_escapeChar {c d : Char} (h : d ∈ escapeChar c) : 0x20 ≤ d.toNat := by
  have hdigit : ∀ n < 16, 0x20 ≤ (hexDigit n).toNat := by decide
  unfold escapeChar at h
  split at h
  case h_8 =>
    split at h
    · next hcontrol =>
      simp only [List.mem_cons, List.not_mem_nil, or_false] at h
      rcases h with rfl | rfl | rfl | rfl | rfl | rfl
      · decide
      · decide
      · decide
      · decide
      · exact hdigit _ (by omega)
      · exact hdigit _ (by omega)
    · next hshown =>
      rw [List.mem_singleton.mp h]
      exact Nat.not_lt.mp hshown
  all_goals
    simp only [List.mem_cons, List.not_mem_nil, or_false] at h
    rcases h with rfl | rfl <;> decide

theorem le_toNat_of_mem_string {t : Text} {c : Char} (h : c ∈ string t) : 0x20 ≤ c.toNat := by
  rw [string, List.mem_append, List.mem_cons, List.mem_flatMap, List.mem_singleton] at h
  rcases h with (rfl | ⟨d, -, hc⟩) | rfl
  · decide
  · exact le_toNat_of_mem_escapeChar hc
  · decide

/-- An object has no control characters, not even line feeds. -/
theorem le_toNat_of_mem_object {members : List (Text × Text)} {c : Char}
    (h : c ∈ object members) : 0x20 ≤ c.toNat := by
  rw [object, List.mem_append, List.mem_cons, List.mem_singleton] at h
  rcases h with (rfl | h) | rfl
  · decide
  · rcases Text.mem_of_mem_join h with rfl | ⟨t, ht, hc⟩
    · decide
    · obtain ⟨m, -, rfl⟩ := List.mem_map.mp ht
      rcases List.mem_append.mp hc with hc | hc
      · exact le_toNat_of_mem_string hc
      · rcases List.mem_cons.mp hc with rfl | hc
        · decide
        · exact le_toNat_of_mem_string hc
  · decide

end LogLine.Json
