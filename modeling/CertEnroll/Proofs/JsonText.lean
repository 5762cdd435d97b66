import CertEnroll.Proofs.Literals
import CertEnroll.Proofs.Numerals
import CertEnroll.Store.Basic

namespace CertEnroll.Json

open Document (Node)
open Text.Utf8 (octetsOf octetsOf_append encode_ofList)

mutual

def isExact : Json → Bool
  | .integer n => 0 ≤ n && n ≤ largest
  | .float _ => false
  | .array items => itemsExact items
  | .object members => membersExact members
  | .null | .bool _ | .string _ => true

def itemsExact : List Json → Bool
  | [] => true
  | item :: items => item.isExact && itemsExact items

def membersExact : List (String × Json) → Bool
  | [] => true
  | (_, value) :: members => value.isExact && membersExact members

end

def valueOctets (v : Json) : Octets :=
  octetsOf (compactChars v)

def itemsOctets (items : List Json) : Octets :=
  octetsOf (joined [','] (compactItems items))

def membersOctets (members : List (String × Json)) : Octets :=
  octetsOf (joined [','] (compactMembers members))

theorem octets_eq (v : Json) : v.octets = valueOctets v :=
  encode_ofList _

theorem valueOctets_string (s : String) : valueOctets (.string s) = 0x22 :: unquoted s :=
  octetsOf_quote s

theorem exists_numeral {n : Int} (hn : isExact (.integer n) = true) :
    ∃ m : Nat, n = m ∧ m ≤ largest ∧ valueOctets (.integer n) = numeral m := by
  simp only [isExact, Bool.and_eq_true, decide_eq_true_eq] at hn
  obtain ⟨m, rfl⟩ := Int.eq_ofNat_of_zero_le hn.1
  refine ⟨m, rfl, by omega, octetsOf_integer m⟩

theorem valueOctets_array (items : List Json) : valueOctets (.array items) = 0x5b :: (itemsOctets items ++ [0x5d]) := by
  rw [valueOctets, compactChars, List.cons_append, itemsOctets, ← List.singleton_append, octetsOf_append,
    octetsOf_append]
  rfl

theorem valueOctets_object (members : List (String × Json)) :
    valueOctets (.object members) = 0x7b :: (membersOctets members ++ [0x7d]) := by
  rw [valueOctets, compactChars, List.cons_append, membersOctets, ← List.singleton_append, octetsOf_append,
    octetsOf_append]
  rfl

theorem octetsOf_joined (piece next : List Char) (pieces : List (List Char)) :
    octetsOf (joined [','] (piece :: next :: pieces)) =
      octetsOf piece ++ 0x2c :: octetsOf (joined [','] (next :: pieces)) := by
  have hjoined : joined [','] (piece :: next :: pieces) = piece ++ [','] ++ joined [','] (next :: pieces) := rfl
  rw [hjoined, octetsOf_append, octetsOf_append, List.append_assoc]
  rfl

theorem itemsOctets_singleton (item : Json) : itemsOctets [item] = valueOctets item := rfl

theorem itemsOctets_cons (item next : Json) (items : List Json) :
    itemsOctets (item :: next :: items) = valueOctets item ++ 0x2c :: itemsOctets (next :: items) := by
  rw [itemsOctets, compactItems, compactItems, octetsOf_joined]
  rfl

def memberOctets (name : String) (value : Json) : Octets :=
  unquoted name ++ 0x3a :: valueOctets value

theorem membersOctets_singleton (name : String) (value : Json) :
    membersOctets [(name, value)] = 0x22 :: memberOctets name value := by
  rw [membersOctets, compactMembers, compactMembers, joined, octetsOf_append, octetsOf_quote]
  rfl

theorem membersOctets_cons (name : String) (value : Json) (next : String × Json) (members : List (String × Json)) :
    membersOctets ((name, value) :: next :: members) =
      0x22 :: (memberOctets name value ++ 0x2c :: membersOctets (next :: members)) := by
  rw [membersOctets, compactMembers, compactMembers, octetsOf_joined, octetsOf_append, octetsOf_quote,
    ← compactMembers]
  rfl

theorem isSpace_of_isDigit {b : UInt8} (hb : isDigit b = true) : isSpace b = false := by
  by_contra hs
  simp only [isSpace, Bool.not_eq_false, Bool.or_eq_true, beq_iff_eq] at hs
  rcases hs with ((rfl | rfl) | rfl) | rfl <;> cases hb

theorem exists_valueOctets {v : Json} (hv : v.isExact = true) :
    ∃ b rest, valueOctets v = b :: rest ∧ isSpace b = false ∧ b ≠ 0x5d := by
  cases v with
  | null => exact ⟨_, _, rfl, rfl, by decide⟩
  | bool b => cases b <;> exact ⟨_, _, rfl, rfl, by decide⟩
  | string s => exact ⟨_, _, valueOctets_string s, rfl, by decide⟩
  | array items => exact ⟨_, _, valueOctets_array items, rfl, by decide⟩
  | object members => exact ⟨_, _, valueOctets_object members, rfl, by decide⟩
  | integer n =>
    obtain ⟨m, rfl, -, hm⟩ := exists_numeral hv
    obtain ⟨b, rest, hb⟩ := List.exists_cons_of_ne_nil (numeral_ne_nil m)
    have hdigit := isDigit_of_mem_numeral b (hb ▸ List.mem_cons_self)
    refine ⟨b, rest, hm.trans hb, isSpace_of_isDigit hdigit, ?_⟩
    rintro rfl
    cases hdigit
  | float => cases hv

theorem exists_itemsOctets {item : Json} (hv : item.isExact = true) (items : List Json) :
    ∃ b rest, itemsOctets (item :: items) = b :: rest ∧ isSpace b = false ∧ b ≠ 0x5d := by
  obtain ⟨b, rest, hb, hspace, hclose⟩ := exists_valueOctets hv
  cases items with
  | nil => exact ⟨b, rest, hb, hspace, hclose⟩
  | cons next items =>
    rw [itemsOctets_cons, hb]
    exact ⟨b, _, rfl, hspace, hclose⟩

theorem exists_membersOctets (member : String × Json) (members : List (String × Json)) :
    ∃ rest, membersOctets (member :: members) = 0x22 :: rest := by
  obtain ⟨name, value⟩ := member
  cases members with
  | nil => exact ⟨_, membersOctets_singleton name value⟩
  | cons next members => exact ⟨_, membersOctets_cons name value next members⟩

theorem skipSpace_cons {b : UInt8} (hb : isSpace b = false) (text : List UInt8) :
    skipSpace (b :: text) = b :: text := by
  rw [skipSpace, List.dropWhile_cons_of_neg]
  rw [hb]
  exact Bool.false_ne_true

section

variable {fuel : Nat} {name : String} {text rest : List UInt8} {node : Node}

theorem readMembers_last
    (hvalue : readValue fuel (text ++ 0x7d :: rest) = (node, some (0x7d :: rest))) :
    readMembers (fuel + 1) (0x22 :: (unquoted name ++ 0x3a :: (text ++ 0x7d :: rest))) =
      ([(some name, node)], none, some rest) := by
  rw [readMembers]
  simp only [readLiteral_unquoted, skipSpace_cons (show isSpace 0x3a = false from rfl), hvalue,
    skipSpace_cons (show isSpace 0x7d = false from rfl)]
  rfl

theorem readMembers_next
    (hvalue : readValue fuel (text ++ 0x2c :: 0x22 :: rest) = (node, some (0x2c :: 0x22 :: rest))) :
    readMembers (fuel + 1) (0x22 :: (unquoted name ++ 0x3a :: (text ++ 0x2c :: 0x22 :: rest))) =
      ((some name, node) :: (readMembers fuel (0x22 :: rest)).1, (readMembers fuel (0x22 :: rest)).2) := by
  rw [readMembers]
  simp only [readLiteral_unquoted, skipSpace_cons (show isSpace 0x3a = false from rfl), hvalue,
    skipSpace_cons (show isSpace 0x2c = false from rfl), skipSpace_cons (show isSpace 0x22 = false from rfl)]
  rfl

theorem readItems_last (hvalue : readValue fuel (text ++ 0x5d :: rest) = (node, some (0x5d :: rest))) :
    readItems (fuel + 1) (text ++ 0x5d :: rest) = ([node], none, some rest) := by
  rw [readItems]
  simp only [hvalue, skipSpace_cons (show isSpace 0x5d = false from rfl)]
  rfl

theorem readItems_next {b : UInt8} (hspace : isSpace b = false) (hclose : b ≠ 0x5d)
    (hvalue : readValue fuel (text ++ 0x2c :: b :: rest) = (node, some (0x2c :: b :: rest))) :
    readItems (fuel + 1) (text ++ 0x2c :: b :: rest) =
      (node :: (readItems fuel (b :: rest)).1, (readItems fuel (b :: rest)).2) := by
  rw [readItems]
  simp only [hvalue, skipSpace_cons (show isSpace 0x2c = false from rfl), skipSpace_cons hspace, if_neg hclose]
  rfl

theorem readValue_array {b : UInt8} (hspace : isSpace b = false) (hclose : b ≠ 0x5d) :
    readValue (fuel + 1) (0x5b :: b :: rest) =
      (.sequence (readItems fuel (b :: rest)).1 (readItems fuel (b :: rest)).2.1,
        (readItems fuel (b :: rest)).2.2) := by
  rw [readValue, skipSpace_cons (show isSpace 0x5b = false from rfl)]
  simp only [skipSpace_cons hspace, if_neg hclose]
  rfl

theorem readValue_object :
    readValue (fuel + 1) (0x7b :: 0x22 :: rest) =
      (.mapping (readMembers fuel (0x22 :: rest)).1 (readMembers fuel (0x22 :: rest)).2.1,
        (readMembers fuel (0x22 :: rest)).2.2) := by
  rw [readValue, skipSpace_cons (show isSpace 0x7b = false from rfl)]
  simp only [skipSpace_cons (show isSpace 0x22 = false from rfl)]
  rfl

theorem readValue_numeral {n : Nat} (hn : n ≤ largest) (he : EndsNumber rest) :
    readValue (fuel + 1) (numeral n ++ rest) = (.integer n, some rest) := by
  have hread := readNumber_numeral hn he
  obtain ⟨b, more, hb⟩ := List.exists_cons_of_ne_nil (numeral_ne_nil n)
  have hdigit := isDigit_of_mem_numeral b (hb ▸ List.mem_cons_self)
  have hne {c : UInt8} (hc : isDigit c = false) : b ≠ c := by
    rintro rfl
    rw [hdigit] at hc
    cases hc
  rw [hb, List.cons_append] at hread ⊢
  rw [readValue, skipSpace_cons (isSpace_of_isDigit hdigit)]
  simp only [if_neg (hne (c := 0x22) rfl), if_neg (hne (c := 0x5b) rfl), if_neg (hne (c := 0x7b) rfl),
    if_neg (hne (c := 0x74) rfl), if_neg (hne (c := 0x66) rfl), if_neg (hne (c := 0x6e) rfl)]
  rw [if_pos (.inr hdigit), afterNumber, hread]

theorem readValue_string (s : String) :
    readValue (fuel + 1) (0x22 :: (unquoted s ++ rest)) = (.text s, some rest) := by
  rw [readValue, skipSpace_cons (show isSpace 0x22 = false from rfl)]
  simp only [if_true, afterLiteral, readLiteral_unquoted, literalNode]

end

structure ReadsBack (fuel : Nat) : Prop where
  value : ∀ {v : Json} {rest : List UInt8}, EndsNumber rest → v.isExact = true →
    2 * (valueOctets v).length ≤ fuel → readValue fuel (valueOctets v ++ rest) = (.ofJson v, some rest)
  items : ∀ {item : Json} {items : List Json} (rest : List UInt8), itemsExact (item :: items) = true →
    2 * (itemsOctets (item :: items)).length + 1 ≤ fuel →
      readItems fuel (itemsOctets (item :: items) ++ 0x5d :: rest) =
        (Document.ofJsonItems (item :: items), none, some rest)
  members : ∀ {member : String × Json} {members : List (String × Json)} (rest : List UInt8),
    membersExact (member :: members) = true → 2 * (membersOctets (member :: members)).length + 1 ≤ fuel →
      readMembers fuel (membersOctets (member :: members) ++ 0x7d :: rest) =
        (Document.ofJsonMembers (member :: members), none, some rest)

section

variable {fuel : Nat} (ih : ReadsBack fuel) (rest : List UInt8)

include ih

theorem ReadsBack.value_succ {v : Json} (he : EndsNumber rest) (hv : v.isExact = true)
    (hf : 2 * (valueOctets v).length ≤ fuel + 1) :
    readValue (fuel + 1) (valueOctets v ++ rest) = (.ofJson v, some rest) := by
  cases v with
  | null => rfl
  | bool b => cases b <;> rfl
  | integer n =>
    obtain ⟨m, rfl, hm, ho⟩ := exists_numeral hv
    rw [ho, readValue_numeral hm he]
    rfl
  | float => cases hv
  | string s =>
    rw [valueOctets_string, List.cons_append]
    exact readValue_string s
  | array items =>
    cases items with
    | nil => rfl
    | cons item items =>
      rw [isExact] at hv
      rw [valueOctets_array, List.length_cons, List.length_append] at hf
      have hitems := ih.items rest hv (by omega)
      rw [itemsExact, Bool.and_eq_true] at hv
      obtain ⟨b, tail, hb, hspace, hclose⟩ := exists_itemsOctets hv.1 items
      rw [valueOctets_array, List.cons_append, List.append_assoc, hb, List.cons_append,
        readValue_array hspace hclose, List.singleton_append, ← List.cons_append, ← hb, hitems]
      rfl
  | object members =>
    cases members with
    | nil => rfl
    | cons member members =>
      rw [isExact] at hv
      rw [valueOctets_object, List.length_cons, List.length_append] at hf
      have hmembers := ih.members rest hv (by omega)
      obtain ⟨tail, hb⟩ := exists_membersOctets member members
      rw [valueOctets_object, List.cons_append, List.append_assoc, hb, List.cons_append,
        readValue_object, List.singleton_append, ← List.cons_append, ← hb, hmembers]
      rfl

theorem ReadsBack.items_succ {item : Json} {items : List Json} (hi : itemsExact (item :: items) = true)
    (hf : 2 * (itemsOctets (item :: items)).length ≤ fuel) :
    readItems (fuel + 1) (itemsOctets (item :: items) ++ 0x5d :: rest) =
      (Document.ofJsonItems (item :: items), none, some rest) := by
  rw [itemsExact, Bool.and_eq_true] at hi
  obtain ⟨hitem, hitems⟩ := hi
  cases items with
  | nil =>
    rw [itemsOctets_singleton] at hf ⊢
    rw [readItems_last (ih.value (endsNumber_cons (by decide) rest) hitem (by omega))]
    rfl
  | cons next items =>
    rw [itemsOctets_cons, List.length_append, List.length_cons] at hf
    have hrest := ih.items rest hitems (by omega)
    rw [itemsExact, Bool.and_eq_true] at hitems
    obtain ⟨b, tail, hb, hspace, hclose⟩ := exists_itemsOctets hitems.1 items
    have hvalue := ih.value (endsNumber_cons (b := 0x2c) (by decide) (b :: (tail ++ 0x5d :: rest))) hitem (by omega)
    rw [itemsOctets_cons, List.append_assoc, List.cons_append, hb, List.cons_append,
      readItems_next hspace hclose hvalue, ← List.cons_append, ← hb, hrest]
    rfl

theorem ReadsBack.members_succ {member : String × Json} {members : List (String × Json)}
    (hm : membersExact (member :: members) = true) (hf : 2 * (membersOctets (member :: members)).length ≤ fuel) :
    readMembers (fuel + 1) (membersOctets (member :: members) ++ 0x7d :: rest) =
      (Document.ofJsonMembers (member :: members), none, some rest) := by
  obtain ⟨name, value⟩ := member
  rw [membersExact, Bool.and_eq_true] at hm
  obtain ⟨hvalue, hmembers⟩ := hm
  cases members with
  | nil =>
    rw [membersOctets_singleton, memberOctets, List.length_cons, List.length_append, List.length_cons] at hf
    have hread := ih.value (endsNumber_cons (b := 0x7d) (by decide) rest) hvalue (by omega)
    rw [membersOctets_singleton, memberOctets, List.cons_append, List.append_assoc, List.cons_append,
      readMembers_last hread]
    rfl
  | cons next members =>
    rw [membersOctets_cons, memberOctets, List.length_cons, List.length_append, List.length_append,
      List.length_cons, List.length_cons] at hf
    have hrest := ih.members rest hmembers (by omega)
    obtain ⟨tail, hb⟩ := exists_membersOctets next members
    have hread := ih.value (endsNumber_cons (b := 0x2c) (by decide) (0x22 :: (tail ++ 0x7d :: rest))) hvalue (by omega)
    rw [membersOctets_cons, memberOctets, List.cons_append, List.append_assoc, List.append_assoc,
      List.cons_append, List.cons_append, hb, List.cons_append, readMembers_next hread, ← List.cons_append, ← hb,
      hrest]
    rfl

end

theorem readsBack (fuel : Nat) : ReadsBack fuel := by
  induction fuel with
  | zero =>
    refine ⟨?_, nofun, nofun⟩
    intro v rest he hv hf
    obtain ⟨b, tail, hb, -, -⟩ := exists_valueOctets hv
    rw [hb, List.length_cons] at hf
    omega
  | succ fuel ih =>
    exact ⟨fun he hv hf => ih.value_succ _ he hv hf,
      fun rest hi hf => ih.items_succ rest hi (Nat.le_of_succ_le_succ hf),
      fun rest hm hf => ih.members_succ rest hm (Nat.le_of_succ_le_succ hf)⟩

theorem readDocument_octets {v : Json} (hv : v.isExact = true) : readDocument v.octets = (.ofJson v, false) := by
  have hread := (readsBack (2 * v.octets.length + 2)).value endsNumber_nil hv (by rw [octets_eq]; omega)
  rw [List.append_nil, ← octets_eq] at hread
  rw [readDocument, hread]
  rfl

theorem decodeText_octets {α : Type} {v : Json} (read : Document.Decoder α) (hv : v.isExact = true) :
    decodeText read v.octets = read (.ofJson v) := by
  simp only [decodeText, readDocument_octets hv]
  cases read (.ofJson v) <;> rfl

end CertEnroll.Json
