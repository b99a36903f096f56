import PortMap.Proofs.Route.Fold

/-!
# Announced gateways

In the output of a route command a gateway is announced: the word `via` or `gateway:` stands before a word that
is the dotted text of an address, up to a slash (`AnnouncesAt`). Such a pair of words has a place, which is the
number of its line and the number of its first word in this line, and places are in the order in which a text
is read (`Place.Before`).

## What is proved

* `CommandOutput.gatewayOfWords_eq_some_iff` — what is read from a line: the address of its first pair.
* `CommandOutput.gateway?_eq_some_iff`, `CommandOutput.gateway?_eq_none_iff` — what is read from a text.
* `CommandOutput.gateway?_announced` — an address that is written behind a keyword is read back.
* `announced_gateway_exact` — **all of it put together.**
-/

namespace PortMap.Route.CommandOutput

open Text

/-! ### Pairs of words -/

/-- The words that announce a gateway. -/
def keywords : List (List Char) := ["via".toList, "gateway:".toList]

/-- A word is the dotted text of an address, up to a slash. -/
def Holds (word : List Char) (a : Address) : Prop := word = a.chars ∨ ∃ more, word = a.chars ++ '/' :: more

/-- Among words, the one at a place announces an address. -/
def AnnouncesAt (ws : List (List Char)) (place : Nat) (a : Address) : Prop :=
  ∃ keyword next, ws[place]? = some keyword ∧ ws[place + 1]? = some next ∧ keyword ∈ keywords ∧ Holds next a

theorem announces_iff (word : List Char) : announces word = true ↔ word ∈ keywords := by
  rw [announces, Bool.or_eq_true, decide_eq_true_eq, decide_eq_true_eq, keywords]
  simp only [List.mem_cons, List.not_mem_nil, or_false]

/-- There is no slash in an address. -/
theorem slash_notMem_chars (a : Address) : '/' ∉ a.chars := by
  have slash (n : Nat) := Address.notMem_digitChars (c := '/') (by decide) n
  simp [Address.chars, slash]

theorem takeWhile_eq_chars_iff (word : List Char) (a : Address) :
    word.takeWhile (· != '/') = a.chars ↔ Holds word a := by
  have kept : ∀ c ∈ a.chars, (c != '/') = true := by
    rintro c hc
    rw [bne_iff_ne]
    rintro rfl
    exact slash_notMem_chars a hc
  constructor
  · intro same
    have parts := List.takeWhile_append_dropWhile (p := (· != '/')) (l := word)
    rw [same] at parts
    cases rest : word.dropWhile (· != '/') with
    | nil =>
      rw [rest, List.append_nil] at parts
      exact .inl parts.symm
    | cons c more =>
      have mark : c = '/' := by
        have stops := List.head?_dropWhile_not (· != '/') word
        rw [rest] at stops
        simpa using stops
      rw [rest, mark] at parts
      exact .inr ⟨more, parts.symm⟩
  · rintro (rfl | ⟨more, rfl⟩)
    · exact List.takeWhile_eq_self_iff.mpr kept
    · rw [List.takeWhile_append_of_pos kept, List.takeWhile_cons_of_neg (by decide), List.append_nil]

theorem read?_eq_some_iff (s : List Char) (a : Address) : Address.read? s = some a ↔ s = a.chars := by
  rw [← @Address.readFrom_eq_ok_iff (quoted (String.ofList s)), Address.read?, Address.read]
  cases Address.readFrom (quoted (String.ofList s)) s <;> simp [Except.toOption]

/-- An address is read from a word that holds it, and from no other. -/
theorem addressOfWord?_eq_some_iff (word : List Char) (a : Address) :
    addressOfWord? word = some a ↔ Holds word a := by
  rw [addressOfWord?, read?_eq_some_iff, takeWhile_eq_chars_iff]

theorem tells_eq_some_iff (pair : List Char × List Char) (a : Address) :
    tells pair = some a ↔ pair.1 ∈ keywords ∧ Holds pair.2 a := by
  rw [tells, ← announces_iff, ← addressOfWord?_eq_some_iff]
  by_cases keyword : announces pair.1
  · simp [keyword]
  · simp [keyword]

/-! ### The first of them -/

/-- What is found in a list stands at the first place where something is found. -/
theorem findSome?_eq_some_iff_getElem? {α β : Type} {f : α → Option β} {l : List α} {b : β} :
    l.findSome? f = some b ↔
      ∃ (i : Nat) (x : α), l[i]? = some x ∧ f x = some b ∧ ∀ j < i, ∀ y, l[j]? = some y → f y = none := by
  rw [List.findSome?_eq_some_iff]
  constructor
  · rintro ⟨before, x, after, rfl, found, nothing⟩
    refine ⟨before.length, x, by simp, found, fun j hj y hy => nothing y ?_⟩
    rw [List.getElem?_append_left hj] at hy
    exact List.mem_of_getElem? hy
  · rintro ⟨i, x, at_, found, nothing⟩
    obtain ⟨hi, same⟩ := List.getElem?_eq_some_iff.mp at_
    refine ⟨l.take i, x, l.drop (i + 1), ?_, found, fun y hy => ?_⟩
    · rw [← same, ← List.drop_eq_getElem_cons hi, List.take_append_drop]
    · obtain ⟨j, hj, rfl⟩ := List.mem_take_iff_getElem.mp hy
      exact nothing j (by omega) _ (List.getElem?_eq_getElem _)

theorem announcesAt_iff (ws : List (List Char)) (place : Nat) (a : Address) :
    AnnouncesAt ws place a ↔ ∃ pair, (ws.zip ws.tail)[place]? = some pair ∧ tells pair = some a := by
  simp only [List.getElem?_zip_eq_some, List.getElem?_tail, tells_eq_some_iff, Prod.exists]
  constructor
  · rintro ⟨keyword, next, h, h', member, holds⟩
    exact ⟨keyword, next, ⟨h, h'⟩, member, holds⟩
  · rintro ⟨keyword, next, ⟨h, h'⟩, member, holds⟩
    exact ⟨keyword, next, h, h', member, holds⟩

/-- What is read from a line is announced there, and nothing is announced before it. -/
theorem gatewayOfWords_eq_some_iff (ws : List (List Char)) (a : Address) :
    gatewayOfWords ws = some a ↔
      ∃ place, AnnouncesAt ws place a ∧ ∀ i < place, ∀ b, ¬ AnnouncesAt ws i b := by
  rw [gatewayOfWords_eq, findSome?_eq_some_iff_getElem?]
  simp only [announcesAt_iff]
  constructor
  · rintro ⟨place, pair, at_, told, nothing⟩
    refine ⟨place, ⟨pair, at_, told⟩, ?_⟩
    rintro i hi b ⟨earlier, h, told'⟩
    rw [nothing i hi earlier h] at told'
    cases told'
  · rintro ⟨place, ⟨pair, at_, told⟩, nothing⟩
    refine ⟨place, pair, at_, told, fun i hi earlier h => ?_⟩
    exact Option.eq_none_iff_forall_ne_some.mpr fun b told' => nothing i hi b ⟨earlier, h, told'⟩

/-- Nothing is read from a line exactly if nothing is announced there. -/
theorem gatewayOfWords_eq_none_iff (ws : List (List Char)) :
    gatewayOfWords ws = none ↔ ∀ place a, ¬ AnnouncesAt ws place a := by
  rw [gatewayOfWords_eq, List.findSome?_eq_none_iff]
  simp only [announcesAt_iff]
  constructor
  · rintro nothing place a ⟨pair, at_, told⟩
    rw [nothing pair (List.mem_of_getElem? at_)] at told
    cases told
  · intro nothing pair member
    obtain ⟨place, at_⟩ := List.getElem?_of_mem member
    exact Option.eq_none_iff_forall_ne_some.mpr fun a told => nothing place a ⟨pair, at_, told⟩

/-! ### Places in a text -/

/-- A place in a text. -/
structure Place where
  /-- The number of the line. -/
  line : Nat
  /-- The number of the word in the line. -/
  word : Nat

/-- A place is read before another one. -/
def Place.Before (p q : Place) : Prop := p.line < q.line ∨ p.line = q.line ∧ p.word < q.word

/-- In a text, the word at a place announces an address. -/
def Announces (text : List Char) (p : Place) (a : Address) : Prop :=
  ∃ line, (lines text)[p.line]? = some line ∧ AnnouncesAt (words line) p.word a

/-- **What is read from a text** is announced there, and nothing is announced before it. -/
theorem gateway?_eq_some_iff (text : List Char) (a : Address) :
    gateway? text = some a ↔
      ∃ p, Announces text p a ∧ ∀ q b, Announces text q b → ¬ q.Before p := by
  rw [gateway?, findSome?_eq_some_iff_getElem?]
  constructor
  · rintro ⟨i, line, at_, found, nothing⟩
    obtain ⟨j, announced, earlier⟩ := (gatewayOfWords_eq_some_iff _ a).mp found
    refine ⟨⟨i, j⟩, ⟨line, at_, announced⟩, ?_⟩
    rintro ⟨i', j'⟩ b ⟨line', at', announced'⟩ (before | ⟨same, before⟩)
    · -- a line before: nothing is read from it
      exact (gatewayOfWords_eq_none_iff _).mp (nothing i' before line' at') j' b announced'
    · -- the same line, a word before
      dsimp only at same before at' announced'
      rw [same, at_, Option.some.injEq] at at'
      subst at'
      exact earlier j' before b announced'
  · rintro ⟨⟨i, j⟩, ⟨line, at_, announced⟩, nothing⟩
    refine ⟨i, line, at_, (gatewayOfWords_eq_some_iff _ a).mpr ⟨j, announced, ?_⟩, ?_⟩
    · intro j' before b announced'
      exact nothing ⟨i, j'⟩ b ⟨line, at_, announced'⟩ (.inr ⟨rfl, before⟩)
    · intro i' before line' at'
      refine (gatewayOfWords_eq_none_iff _).mpr fun j' b announced' => ?_
      exact nothing ⟨i', j'⟩ b ⟨line', at', announced'⟩ (.inl before)

/-- Nothing is read from a text exactly if nothing is announced there. -/
theorem gateway?_eq_none_iff (text : List Char) :
    gateway? text = none ↔ ∀ p a, ¬ Announces text p a := by
  rw [gateway?, List.findSome?_eq_none_iff]
  simp only [gatewayOfWords_eq_none_iff]
  constructor
  · rintro nothing p a ⟨line, at_, announced⟩
    exact nothing line (List.mem_of_getElem? at_) p.word a announced
  · intro nothing line member j a announced
    obtain ⟨i, at_⟩ := List.getElem?_of_mem member
    exact nothing ⟨i, j⟩ a ⟨line, at_, announced⟩

/-! ### Written behind a keyword -/

theorem isWord_of_mem_keywords : ∀ keyword ∈ keywords, IsWord keyword := by decide

/-- No keyword is an address. -/
theorem addressOfWord?_keyword : ∀ keyword ∈ keywords, addressOfWord? keyword = none := by decide

/-- Words that announce nothing may stand before a pair that does. -/
theorem gatewayOfWords_append {ws : List (List Char)} (silent : gatewayOfWords ws = none)
    {keyword next : List Char} (hk : keyword ∈ keywords) {a : Address} (holds : Holds next a)
    (further : List (List Char)) : gatewayOfWords (ws ++ keyword :: next :: further) = some a := by
  have told := (addressOfWord?_eq_some_iff next a).mpr holds
  have announced := (announces_iff keyword).mpr hk
  induction ws with
  | nil => simp [gatewayOfWords, announced, told]
  | cons word ws ih =>
    cases ws with
    | nil =>
      -- the keyword itself may be taken for the address of the word before it, and is none
      have noAddress := addressOfWord?_keyword keyword hk
      by_cases h : announces word
      · simp [gatewayOfWords, h, noAddress, announced, told]
      · simp [gatewayOfWords, h, announced, told]
    | cons second ws =>
      rw [gatewayOfWords] at silent
      rw [List.cons_append, List.cons_append, gatewayOfWords, ← List.cons_append]
      by_cases h : announces word
      · rw [if_pos h] at silent ⊢
        cases reads : addressOfWord? second with
        | none =>
          rw [reads] at silent
          exact ih silent
        | some b =>
          rw [reads] at silent
          cases silent
      · rw [if_neg h] at silent ⊢
        exact ih silent

/-- Behind a text that is empty or ends with a separator, words begin anew. -/
theorem words_append_of_getLast? {s : List Char} (h : ∀ c ∈ s.getLast?, separatesWords c = true)
    (t : List Char) : words (s ++ t) = words s ++ words t := by
  rcases List.eq_nil_or_concat s with rfl | ⟨s, c, rfl⟩
  · rfl
  · have separates : separatesWords c = true := h c (by simp)
    have alone := words_append_separator separates s []
    rw [List.concat_eq_append, List.append_assoc, List.singleton_append, words_append_separator separates,
      alone]
    simp [words, wordsFrom]

/-- The words of a line that ends with a pair. -/
theorem words_announcement {l gap keyword word more : List Char}
    (hl : ∀ c ∈ l.getLast?, separatesWords c = true) (hk : keyword ∈ keywords) (notEmpty : gap ≠ [])
    (blank : ∀ c ∈ gap, separatesWords c = true) (isWord : IsWord word)
    (ends : ∀ c ∈ more.head?, separatesWords c = true) :
    words (l ++ (keyword ++ (gap ++ (word ++ more)))) = words l ++ keyword :: word :: words more := by
  have head : ∀ c ∈ (gap ++ (word ++ more)).head?, separatesWords c = true := by
    intro c hc
    rw [List.head?_append_of_ne_nil _ notEmpty] at hc
    exact blank c (List.mem_of_mem_head? hc)
  rw [words_append_of_getLast? hl, words_append (isWord_of_mem_keywords keyword hk) head,
    words_separators blank, words_append isWord ends]

theorem findsFirst : FindsFirst gateway? gateway? := findsFirst_lines rfl

theorem gateway?_of_isUnbroken {s : List Char} (h : IsUnbroken s) :
    gateway? s = gatewayOfWords (words s) := by
  rw [gateway?, lines_of_isUnbroken h]
  cases s with
  | nil => rfl
  | cons c s =>
    simp only [List.isEmpty_cons, Bool.false_eq_true, if_false, List.findSome?_cons, List.findSome?_nil]
    cases gatewayOfWords (words (c :: s)) <;> rfl

section Announcement

variable {gap keyword word : List Char} {a : Address} (hk : keyword ∈ keywords) (notEmpty : gap ≠ [])
  (blank : ∀ c ∈ gap, separatesWords c = true ∧ endsLine c = false) (isWord : IsWord word)
  (holds : Holds word a)

include hk notEmpty blank isWord holds

/-- On a line, an address that is written behind a keyword is read back. -/
theorem gateway?_announced_line {l more : List Char} (hl : IsUnbroken l) (silent : gateway? l = none)
    (apart : ∀ c ∈ l.getLast?, separatesWords c = true) (hm : IsUnbroken more)
    (ends : ∀ c ∈ more.head?, separatesWords c = true) :
    gateway? (l ++ (keyword ++ (gap ++ (word ++ more)))) = some a := by
  have unbroken : IsUnbroken (l ++ (keyword ++ (gap ++ (word ++ more)))) := by
    refine hl.append (.append (isWord_of_mem_keywords keyword hk).isUnbroken (.append ?_ ?_))
    · exact fun c hc => (blank c hc).2
    · exact isWord.isUnbroken.append hm
  rw [gateway?_of_isUnbroken hl] at silent
  rw [gateway?_of_isUnbroken unbroken,
    words_announcement apart hk notEmpty (fun c hc => (blank c hc).1) isWord ends]
  exact gatewayOfWords_append silent hk holds _

/-- What stands below the line does not count. -/
theorem gateway?_announced_above {l after : List Char} (hl : IsUnbroken l) (silent : gateway? l = none)
    (apart : ∀ c ∈ l.getLast?, separatesWords c = true)
    (ends : ∀ c ∈ after.head?, separatesWords c = true) :
    gateway? (l ++ (keyword ++ (gap ++ (word ++ after)))) = some a := by
  rcases isUnbroken_or after with unbroken | ⟨more, c, below, rfl, unbroken, stops⟩
  · exact gateway?_announced_line hk notEmpty blank isWord holds hl silent apart unbroken ends
  · have ends' : ∀ x ∈ more.head?, separatesWords x = true := by
      intro x hx
      apply ends x
      rw [List.head?_append, Option.mem_def.mp hx]
      rfl
    have line := gateway?_announced_line hk notEmpty blank isWord holds hl silent apart unbroken ends'
    have whole := findsFirst.append [c] (singleton_mem_breaks stops)
      (l ++ (keyword ++ (gap ++ (word ++ more)))) below
    rw [line, Option.some_or] at whole
    rw [← whole]
    simp only [List.append_assoc, List.singleton_append]

/-- **An address that is written behind a keyword is read back**, if nothing is announced before. -/
theorem gateway?_announced {before after : List Char} (silent : gateway? before = none)
    (apart : ∀ c ∈ before.getLast?, separatesWords c = true)
    (ends : ∀ c ∈ after.head?, separatesWords c = true) :
    gateway? (before ++ (keyword ++ (gap ++ (word ++ after)))) = some a := by
  rcases isUnbroken_or_last before with unbroken | ⟨above, c, l, rfl, stops, unbroken⟩
  · exact gateway?_announced_above hk notEmpty blank isWord holds unbroken silent apart ends
  · have both := findsFirst.append [c] (singleton_mem_breaks stops)
    simp only [List.append_assoc, List.singleton_append] at both
    rw [both, Option.or_eq_none_iff] at silent
    obtain ⟨silentAbove, silentLine⟩ := silent
    have apart' : ∀ x ∈ l.getLast?, separatesWords x = true := by
      intro x hx
      apply apart x
      rw [List.getLast?_append, List.getLast?_cons, Option.mem_def.mp hx]
      rfl
    rw [List.append_assoc, List.cons_append, both, silentAbove, Option.none_or]
    exact gateway?_announced_above hk notEmpty blank isWord holds unbroken silentLine apart' ends

end Announcement

/-! ### What a command tells -/

/-- **What is read from the output of a command.** An address is read exactly if it is announced and nothing is
announced before it, and none is read exactly if none is announced. So an address that is written behind a
keyword, with or without the length of a network after a slash, is read back from behind any text that announces
none. -/
theorem announced_gateway_exact :
    (∀ text a, gateway? text = some a ↔
      ∃ p, Announces text p a ∧ ∀ q b, Announces text q b → ¬ q.Before p) ∧
    (∀ text, gateway? text = none ↔ ∀ p a, ¬ Announces text p a) ∧
    ∀ before, (∀ p b, ¬ Announces before p b) → (∀ c ∈ before.getLast?, separatesWords c = true) →
      ∀ keyword ∈ keywords, ∀ gap, gap ≠ [] →
        (∀ c ∈ gap, separatesWords c = true ∧ endsLine c = false) →
        ∀ suffix, (suffix = [] ∨ ∃ n, suffix = '/' :: n ∧ ∀ c ∈ n, separatesWords c = false) →
          ∀ after, (∀ c ∈ after.head?, separatesWords c = true) → ∀ a : Address,
            gateway? (before ++ (keyword ++ (gap ++ (a.chars ++ suffix ++ after)))) = some a := by
  refine ⟨gateway?_eq_some_iff, gateway?_eq_none_iff, ?_⟩
  intro before silent apart keyword hk gap notEmpty blank suffix form after ends a
  have holds : Holds (a.chars ++ suffix) a := by
    rcases form with rfl | ⟨n, rfl, -⟩
    · exact .inl (List.append_nil _)
    · exact .inr ⟨n, rfl⟩
  have unseparated : ∀ c ∈ suffix, separatesWords c = false := by
    rcases form with rfl | ⟨n, rfl, plain⟩
    · simp
    · simpa using ⟨by decide, plain⟩
  have isWord : IsWord (a.chars ++ suffix) := by
    refine ⟨by simp [a.isWord_chars.notEmpty], fun c hc => ?_⟩
    rcases List.mem_append.mp hc with hc | hc
    · exact a.isWord_chars.unseparated c hc
    · exact unseparated c hc
  exact gateway?_announced hk notEmpty blank isWord holds ((gateway?_eq_none_iff before).mpr silent) apart ends

/-- Behind gateways of other kinds and a keyword at the end of a line. -/
theorem announced_gateway_exact_behind :
    gateway? "default via inet6 fe80::1 via\ngateway: link#5\x0b via gateway:\t10.0.0.1/24 dev".toList =
      some ⟨10, 0, 0, 1⟩ := by
  obtain ⟨-, none_, found⟩ := announced_gateway_exact
  have silent := (none_ "default via inet6 fe80::1 via\ngateway: link#5\x0b via ".toList).mp (by decide)
  have apart : ∀ c ∈ "default via inet6 fe80::1 via\ngateway: link#5\x0b via ".toList.getLast?,
      separatesWords c = true := by
    intro c last
    obtain rfl : ' ' = c := Option.some.inj last
    decide
  have blank : ∀ c ∈ ['\t'], separatesWords c = true ∧ endsLine c = false :=
    List.forall_mem_singleton.mpr (by decide)
  have length : IsWord "24".toList := by decide
  have ends : ∀ c ∈ " dev".toList.head?, separatesWords c = true := by
    intro c first
    obtain rfl : ' ' = c := Option.some.inj first
    decide
  exact found _ silent apart "gateway:".toList (by decide) ['\t'] (List.cons_ne_nil _ _) blank "/24".toList
    (.inr ⟨"24".toList, rfl, length.unseparated⟩) " dev".toList ends ⟨10, 0, 0, 1⟩

end PortMap.Route.CommandOutput
