import Courier.Json.Node
import Courier.Proofs.Json.Number
import Courier.Proofs.Json.Text

/-! How documents may be written, whatever they hold: numbers of any size and with fractions, texts
with any escapes, lists and objects nested in each other, and blanks between their parts. The bytes
of a document lead to its tree. -/
namespace Courier.Json

/-- Nothing that counts between the parts of a value. -/
def Blank (bs : Bytes) : Prop := ∀ b ∈ bs, isSpace b = true

instance (bs : Bytes) : Decidable (Blank bs) := List.decidableBAll _ bs

mutual

/-- The ways to write a tree. -/
inductive Spelling : Node → Bytes → Prop
  | null : Spelling .null [0x6E, 0x75, 0x6C, 0x6C]
  | yes : Spelling (.bool true) [0x74, 0x72, 0x75, 0x65]
  | no : Spelling (.bool false) [0x66, 0x61, 0x6C, 0x73, 0x65]
  | numeral {n : Numeral} {bs : Bytes} (h : NumeralSpelling n bs) : Spelling (.numeral n) bs
  | text {raw : Bytes} (h : RawText raw) : Spelling (.text raw) (0x22 :: (raw ++ [0x22]))
  | list {nodes : List Node} {bs : Bytes} (h : ItemsSpelling nodes bs) :
      Spelling (.list nodes true) (0x5B :: (bs ++ [0x5D]))
  | object {nodes : List Member} {bs : Bytes} (h : MembersSpelling nodes bs) :
      Spelling (.object nodes true) (0x7B :: (bs ++ [0x7D]))

/-- A tree with blanks around it. -/
inductive SpacedSpelling : Node → Bytes → Prop
  | mk {n : Node} {before bs after : Bytes} (hbefore : Blank before) (h : Spelling n bs)
      (hafter : Blank after) : SpacedSpelling n (before ++ (bs ++ after))

inductive ItemsSpelling : List Node → Bytes → Prop
  | empty {bs : Bytes} (h : Blank bs) : ItemsSpelling [] bs
  | one {n : Node} {bs : Bytes} (h : SpacedSpelling n bs) : ItemsSpelling [n] bs
  | more {n m : Node} {nodes : List Node} {bs cs : Bytes} (first : SpacedSpelling n bs)
      (rest : ItemsSpelling (m :: nodes) cs) : ItemsSpelling (n :: m :: nodes) (bs ++ 0x2C :: cs)

inductive MemberSpelling : Member → Bytes → Prop
  | mk {raw : Bytes} {n : Node} {before after bs : Bytes} (hbefore : Blank before)
      (hkey : RawText raw) (hafter : Blank after) (h : SpacedSpelling n bs) :
      MemberSpelling (raw, n) (before ++ ((0x22 :: (raw ++ [0x22])) ++ (after ++ 0x3A :: bs)))

inductive MembersSpelling : List Member → Bytes → Prop
  | empty {bs : Bytes} (h : Blank bs) : MembersSpelling [] bs
  | one {m : Member} {bs : Bytes} (h : MemberSpelling m bs) : MembersSpelling [m] bs
  | more {m l : Member} {nodes : List Member} {bs cs : Bytes} (first : MemberSpelling m bs)
      (rest : MembersSpelling (l :: nodes) cs) :
      MembersSpelling (m :: l :: nodes) (bs ++ 0x2C :: cs)

end

/-- A tree that can be written. -/
def Node.Proper (n : Node) : Prop := ∃ bs, Spelling n bs

theorem Node.Proper.isWhole {n : Node} (h : n.Proper) : n.isWhole = true := by
  obtain ⟨bs, h⟩ := h
  cases h <;> rfl

theorem Spelling.spaced {n : Node} {bs : Bytes} (h : Spelling n bs) : SpacedSpelling n bs := by
  have none : Blank [] := by decide
  have hpad := SpacedSpelling.mk none h none
  rw [List.append_nil] at hpad
  exact hpad

theorem SpacedSpelling.proper {n : Node} {bs : Bytes} (h : SpacedSpelling n bs) : n.Proper := by
  cases h with
  | mk _ h _ => exact ⟨_, h⟩

theorem MembersSpelling.proper {nodes : List Member} {bs : Bytes} (h : MembersSpelling nodes bs) :
    ∀ m ∈ nodes, m.2.Proper := by
  have member : ∀ {m : Member} {bs : Bytes}, MemberSpelling m bs → m.2.Proper := by
    rintro _ _ ⟨-, -, -, h⟩
    exact h.proper
  induction nodes generalizing bs with
  | nil => simp
  | cons m nodes ih =>
    rw [List.forall_mem_cons]
    cases h with
    | one h => exact ⟨member h, by simp⟩
    | more first rest => exact ⟨member first, ih rest⟩

/-- What is inside an object that can be written can be written. -/
theorem Node.Proper.members {nodes : List Member} {closed : Bool}
    (h : (Node.object nodes closed).Proper) : closed = true ∧ ∀ m ∈ nodes, m.2.Proper := by
  obtain ⟨bs, h⟩ := h
  cases h with
  | object h => exact ⟨rfl, h.proper⟩

theorem tokens_nil : tokens [] = [] := by
  rw [tokens]
  rfl

/-- A document that begins with a token goes on with the tokens behind it. -/
theorem tokens_of_scan {b : UInt8} {bs after : Bytes} {t : Token} (hb : isSpace b = false)
    (h : scan (b :: bs) = some (t, after)) : tokens (b :: bs) = t :: tokens after := by
  have hdrop : (b :: bs).dropWhile isSpace = b :: bs := by simp [hb]
  rw [tokens]
  split
  · next hs =>
    rw [hdrop, h] at hs
    obtain ⟨rfl, rfl⟩ := Prod.mk.inj (Option.some.inj hs)
    rfl
  · next hs =>
    rw [hdrop, h] at hs
    cases hs

theorem RawText.scan {raw : Bytes} (h : RawText raw) (rest : Bytes) :
    Json.scan (0x22 :: (raw ++ 0x22 :: rest)) = some (.text raw, rest) := by
  have hread : Json.scan (0x22 :: (raw ++ 0x22 :: rest)) =
      (Json.scanText .plain (raw ++ 0x22 :: rest)).map fun out => (.text out.1, out.2) := rfl
  rw [hread, h.scanText]
  rfl

/-- A numeral begins with a sign or a digit. -/
theorem NumeralSpelling.exists_cons {n : Numeral} {bs : Bytes} (h : NumeralSpelling n bs) :
    ∃ b bs', bs = b :: bs' ∧ isSpace b = false := by
  cases h with
  | @mk negative whole _ _ fs es hwhole =>
    cases negative with
    | true => exact ⟨0x2D, _, rfl, rfl⟩
    | false =>
      obtain ⟨d, ds, rfl⟩ := List.exists_cons_of_ne_nil hwhole.1
      have hspace : ∀ d < 10, isSpace (digitByte d) = false := by decide
      exact ⟨digitByte d, _, rfl, hspace d (hwhole.2 d List.mem_cons_self)⟩

theorem tokens_numeral {n : Numeral} {bs rest : Bytes} (h : NumeralSpelling n bs)
    (hr : EndsNumeral rest) : tokens (bs ++ rest) = .numeral n :: tokens rest := by
  have hscan := scan_numeral hr h
  obtain ⟨b, bs', rfl, hb⟩ := h.exists_cons
  exact tokens_of_scan hb hscan

/-- Reads bytes into a tree that is under way. -/
def feed (p : Progress) (bs : Bytes) : Progress := (tokens bs).foldl Progress.step p

theorem feed_scan {b : UInt8} {bs after : Bytes} {t : Token} (hb : isSpace b = false)
    (h : scan (b :: bs) = some (t, after)) (p : Progress) :
    feed p (b :: bs) = feed (p.step t) after := by
  unfold feed
  rw [tokens_of_scan hb h, List.foldl_cons]

section
variable (p : Progress) (bs : Bytes)

theorem feed_openBrace : feed p (0x7B :: bs) = feed (p.step .openBrace) bs := feed_scan rfl rfl p

theorem feed_closeBrace : feed p (0x7D :: bs) = feed (p.step .closeBrace) bs := feed_scan rfl rfl p

theorem feed_openBracket : feed p (0x5B :: bs) = feed (p.step .openBracket) bs :=
  feed_scan rfl rfl p

theorem feed_closeBracket : feed p (0x5D :: bs) = feed (p.step .closeBracket) bs :=
  feed_scan rfl rfl p

theorem feed_comma : feed p (0x2C :: bs) = feed (p.step .comma) bs := feed_scan rfl rfl p

theorem feed_colon : feed p (0x3A :: bs) = feed (p.step .colon) bs := feed_scan rfl rfl p

end

theorem feed_text {raw : Bytes} (h : RawText raw) (p : Progress) (rest : Bytes) :
    feed p (0x22 :: (raw ++ 0x22 :: rest)) = feed (p.step (.text raw)) rest :=
  feed_scan rfl (h.scan rest) p

theorem feed_numeral {n : Numeral} {bs rest : Bytes} (h : NumeralSpelling n bs)
    (hr : EndsNumeral rest) (p : Progress) :
    feed p (bs ++ rest) = feed (p.step (.numeral n)) rest := by
  unfold feed
  rw [tokens_numeral h hr, List.foldl_cons]

theorem feed_blank {ws : Bytes} (h : Blank ws) (p : Progress) (bs : Bytes) :
    feed p (ws ++ bs) = feed p bs := by
  have hdrop : (ws ++ bs).dropWhile isSpace = bs.dropWhile isSpace :=
    List.dropWhile_append_of_pos h
  have htokens : tokens (ws ++ bs) = tokens bs := by
    rw [tokens, tokens, hdrop]
  unfold feed
  rw [htokens]

theorem endsNumeral_cons {b : UInt8}
    (h : isDigit b = false ∧ b ≠ 0x2E ∧ b ≠ 0x65 ∧ b ≠ 0x45) (rest : Bytes) :
    EndsNumeral (b :: rest) := fun _ hb => Option.some.inj hb ▸ h

theorem Blank.endsNumeral {ws rest : Bytes} (h : Blank ws) (hr : EndsNumeral rest) :
    EndsNumeral (ws ++ rest) := by
  cases ws with
  | nil => exact hr
  | cons b ws =>
    have hb := h b List.mem_cons_self
    simp only [isSpace, Bool.or_eq_true, beq_iff_eq] at hb
    rcases hb with ((rfl | rfl) | rfl) | rfl <;> exact endsNumeral_cons (by decide) _

/-- A value has to come. -/
def Progress.AwaitsValue (p : Progress) (stack : List Frame) : Prop :=
  p = .value stack ∨ p = .firstItem stack

/-- Where a value has to come, these bytes put a tree. -/
def Puts (n : Node) (bs : Bytes) : Prop :=
  ∀ p stack rest, Progress.AwaitsValue p stack → EndsNumeral rest →
    feed p (bs ++ rest) = feed (put n stack) rest

/-- A token that is a value puts it there. -/
theorem Puts.token {n : Node} {bs : Bytes} {t : Token}
    (hfeed : ∀ p rest, EndsNumeral rest → feed p (bs ++ rest) = feed (p.step t) rest)
    (hstep : ∀ stack, startValue stack t = put n stack) (ht : t ≠ .closeBracket) : Puts n bs := by
  intro p stack rest hp hr
  have hnext : p.step t = put n stack := by
    rw [← hstep]
    rcases hp with rfl | rfl
    · rfl
    · cases t <;> first | rfl | exact absurd rfl ht
  rw [hfeed p rest hr, hnext]

theorem RawText.puts {raw : Bytes} (h : RawText raw) :
    Puts (.text raw) (0x22 :: (raw ++ [0x22])) := by
  refine .token (t := .text raw) (fun p rest _ => ?_) (fun _ => rfl) nofun
  rw [List.cons_append, List.append_assoc]
  exact feed_text h p rest

theorem Puts.pad {n : Node} {before bs after : Bytes} (hbefore : Blank before) (h : Puts n bs)
    (hafter : Blank after) : Puts n (before ++ (bs ++ after)) := by
  intro p stack rest hp hr
  rw [List.append_assoc, List.append_assoc, feed_blank hbefore,
    h p stack _ hp (hafter.endsNumeral hr), feed_blank hafter]

/-- Reading these bytes in a list that holds `done` adds the items and closes it. -/
def PutsItems (nodes : List Node) (bs : Bytes) : Prop :=
  ∀ p done stack rest,
    p = .firstItem (.list done :: stack) ∨ nodes ≠ [] ∧ p = .value (.list done :: stack) →
    feed p (bs ++ 0x5D :: rest) = feed (put (.list (done.reverse ++ nodes) true) stack) rest

/-- Where a key has to come in an object that holds `done`, these bytes add a member. -/
def PutsMember (m : Member) (bs : Bytes) : Prop :=
  ∀ p done stack rest,
    p = .firstKey (.object done none :: stack) ∨ p = .key (.object done none :: stack) →
    EndsNumeral rest →
    feed p (bs ++ rest) = feed (.next (.object (m :: done) none :: stack)) rest

/-- Reading these bytes in an object that holds `done` adds the members and closes it. -/
def PutsMembers (nodes : List Member) (bs : Bytes) : Prop :=
  ∀ p done stack rest,
    p = .firstKey (.object done none :: stack) ∨
      nodes ≠ [] ∧ p = .key (.object done none :: stack) →
    feed p (bs ++ 0x7D :: rest) = feed (put (.object (done.reverse ++ nodes) true) stack) rest

section
variable {n : Node} {nodes : List Node} {bs cs : Bytes}

theorem PutsItems.list (h : PutsItems nodes bs) :
    Puts (.list nodes true) (0x5B :: (bs ++ [0x5D])) := by
  intro p stack rest hp _
  have hopen : p.step .openBracket = .firstItem (.list [] :: stack) := by
    rcases hp with rfl | rfl <;> rfl
  rw [List.cons_append, List.append_assoc, feed_openBracket, hopen]
  exact h _ [] stack rest (.inl rfl)

theorem PutsItems.empty (h : Blank bs) : PutsItems [] bs := by
  intro p done stack rest hp
  rcases hp with rfl | ⟨hne, -⟩
  · rw [feed_blank h, List.append_nil, feed_closeBracket]
    rfl
  · exact absurd rfl hne

theorem awaitsValue_of_items {p : Progress} {done : List Node} {stack : List Frame}
    (hp : p = .firstItem (.list done :: stack) ∨ nodes ≠ [] ∧ p = .value (.list done :: stack)) :
    p.AwaitsValue (.list done :: stack) := hp.symm.imp_left And.right

theorem PutsItems.one (h : Puts n bs) : PutsItems [n] bs := by
  intro p done stack rest hp
  rw [h p _ _ (awaitsValue_of_items hp) (endsNumeral_cons (by decide) rest), feed_closeBracket,
    ← List.reverse_cons]
  rfl

theorem PutsItems.more (first : Puts n bs) (rest : PutsItems nodes cs) (hne : nodes ≠ []) :
    PutsItems (n :: nodes) (bs ++ 0x2C :: cs) := by
  intro p done stack after hp
  have hcomma : Progress.step (put n (.list done :: stack)) .comma =
      .value (.list (n :: done) :: stack) := rfl
  rw [List.append_assoc, List.cons_append,
    first p _ _ (awaitsValue_of_items hp) (endsNumeral_cons (by decide) _), feed_comma, hcomma,
    rest _ (n :: done) stack after (.inr ⟨hne, rfl⟩), List.reverse_cons, List.append_assoc]
  rfl

end

section
variable {m : Member} {nodes : List Member} {bs cs : Bytes}

theorem PutsMembers.object (h : PutsMembers nodes bs) :
    Puts (.object nodes true) (0x7B :: (bs ++ [0x7D])) := by
  intro p stack rest hp _
  have hopen : p.step .openBrace = .firstKey (.object [] none :: stack) := by
    rcases hp with rfl | rfl <;> rfl
  rw [List.cons_append, List.append_assoc, feed_openBrace, hopen]
  exact h _ [] stack rest (.inl rfl)

theorem PutsMember.of_key {raw : Bytes} {n : Node} {before after : Bytes} (hbefore : Blank before)
    (hkey : RawText raw) (hafter : Blank after) (h : Puts n bs) :
    PutsMember (raw, n) (before ++ ((0x22 :: (raw ++ [0x22])) ++ (after ++ 0x3A :: bs))) := by
  intro p done stack rest hp hr
  have hstart : p.step (.text raw) = .colon (.object done (some raw) :: stack) := by
    rcases hp with rfl | rfl <;> rfl
  have hcolon : Progress.step (.colon (.object done (some raw) :: stack)) .colon =
      .value (.object done (some raw) :: stack) := rfl
  simp only [List.append_assoc, List.cons_append, List.nil_append]
  rw [feed_blank hbefore, feed_text hkey, hstart, feed_blank hafter, feed_colon, hcolon,
    h _ _ _ (.inl rfl) hr]
  rfl

theorem PutsMembers.empty (h : Blank bs) : PutsMembers [] bs := by
  intro p done stack rest hp
  rcases hp with rfl | ⟨hne, -⟩
  · rw [feed_blank h, List.append_nil, feed_closeBrace]
    rfl
  · exact absurd rfl hne

theorem PutsMembers.one (h : PutsMember m bs) : PutsMembers [m] bs := by
  intro p done stack rest hp
  rw [h p _ _ _ (hp.imp_right And.right) (endsNumeral_cons (by decide) rest), feed_closeBrace,
    ← List.reverse_cons]
  rfl

theorem PutsMembers.more (first : PutsMember m bs) (rest : PutsMembers nodes cs)
    (hne : nodes ≠ []) : PutsMembers (m :: nodes) (bs ++ 0x2C :: cs) := by
  intro p done stack after hp
  have hcomma : Progress.step (.next (.object (m :: done) none :: stack)) .comma =
      .key (.object (m :: done) none :: stack) := rfl
  rw [List.append_assoc, List.cons_append,
    first p _ _ _ (hp.imp_right And.right) (endsNumeral_cons (by decide) _), feed_comma, hcomma,
    rest _ (m :: done) stack after (.inr ⟨hne, rfl⟩), List.reverse_cons, List.append_assoc]
  rfl

end

mutual

theorem Spelling.puts {n : Node} {bs : Bytes} : Spelling n bs → Puts n bs
  | .null => .token (fun p _ _ => feed_scan rfl rfl p) (fun _ => rfl) nofun
  | .yes => .token (fun p _ _ => feed_scan rfl rfl p) (fun _ => rfl) nofun
  | .no => .token (fun p _ _ => feed_scan rfl rfl p) (fun _ => rfl) nofun
  | .numeral h => .token (fun p _ hr => feed_numeral h hr p) (fun _ => rfl) nofun
  | .text h => h.puts
  | .list h => h.puts.list
  | .object h => h.puts.object

theorem SpacedSpelling.puts {n : Node} {bs : Bytes} : SpacedSpelling n bs → Puts n bs
  | .mk hbefore h hafter => h.puts.pad hbefore hafter

theorem ItemsSpelling.puts {nodes : List Node} {bs : Bytes} :
    ItemsSpelling nodes bs → PutsItems nodes bs
  | .empty h => .empty h
  | .one h => .one h.puts
  | .more first rest => .more first.puts rest.puts (List.cons_ne_nil _ _)

theorem MemberSpelling.puts {m : Member} {bs : Bytes} : MemberSpelling m bs → PutsMember m bs
  | .mk hbefore hkey hafter h => .of_key hbefore hkey hafter h.puts

theorem MembersSpelling.puts {nodes : List Member} {bs : Bytes} :
    MembersSpelling nodes bs → PutsMembers nodes bs
  | .empty h => .empty h
  | .one h => .one h.puts
  | .more first rest => .more first.puts rest.puts (List.cons_ne_nil _ _)

end

/-- The document of a written tree is this tree, with nothing behind it. -/
theorem SpacedSpelling.document {n : Node} {bs : Bytes} (h : SpacedSpelling n bs) :
    Document.ofBytes bs = ⟨n, false⟩ := by
  have hroot := h.puts (.value []) [] [] (.inl rfl) fun _ hb => by cases hb
  rw [List.append_nil] at hroot
  change (feed (.value []) bs).document = _
  rw [hroot, feed, tokens_nil]
  rfl

end Courier.Json
