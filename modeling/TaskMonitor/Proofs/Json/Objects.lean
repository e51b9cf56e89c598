import TaskMonitor.Proofs.Json.Rendering
import TaskMonitor.Proofs.Json.Splitting

/-! # Texts of objects

The text of an object is that of its members between braces, with commas between them. Each member
can be read by itself. -/

namespace TaskMonitor.Json

/-! ## Values within containers -/

namespace Reader

/-- The reader, were it within more containers. -/
def onto (outer : List Container) : Reader → Reader
  | value within => value (within ++ outer)
  | firstItem within => firstItem (within ++ outer)
  | firstKey within => firstKey (within ++ outer)
  | key within members => key (within ++ outer) members
  | colon within members k => colon (within ++ outer) members k
  | after within done => after (within ++ outer) done

theorem valueStep_onto (outer within : List Container) (t : Token) :
    valueStep (within ++ outer) t = (valueStep within t).map (onto outer) := by
  cases t with
  | number bytes => cases h : Numeral.ofBytes? bytes <;> simp [valueStep, onto, h]
  | word bytes => cases h : word? bytes <;> simp [valueStep, onto, h]
  | _ => rfl

/-- A token is taken in the same way within more containers, unless the document has ended. -/
theorem step_onto (outer : List Container) {r : Reader} (h : ∀ done, r ≠ .after [] done)
    (t : Token) : (r.onto outer).step t = (r.step t).map (onto outer) := by
  cases r with
  | value within => exact valueStep_onto outer within t
  | firstItem within =>
      have hvalue := valueStep_onto outer (.array [] :: within) t
      cases t <;> first | exact hvalue | rfl
  | firstKey within => cases t <;> rfl
  | key within members => cases t <;> rfl
  | colon within members k => cases t <;> rfl
  | after within done =>
      cases within with
      | nil => exact absurd rfl (h done)
      | cons c within => cases c <;> cases t <;> rfl

theorem foldlM_cons_iff {t : Token} {tokens : List Token} {r last : Reader} :
    (t :: tokens).foldlM step r = some last ↔
      ∃ next, r.step t = some next ∧ tokens.foldlM step next = some last := by
  rw [List.foldlM_cons, Option.bind_eq_bind, Option.bind_eq_some_iff]

theorem eq_nil_of_foldlM_after {tokens : List Token} {done : Tree} {last : Reader}
    (h : tokens.foldlM step (.after [] done) = some last) :
    tokens = [] ∧ last = .after [] done := by
  cases tokens with
  | nil => exact ⟨rfl, by simpa [eq_comm] using h⟩
  | cons t tokens =>
      obtain ⟨next, hstep, -⟩ := foldlM_cons_iff.mp h
      cases hstep

theorem foldlM_onto {tokens : List Token} {r r' : Reader}
    (h : tokens.foldlM step r = some r') (outer : List Container) :
    tokens.foldlM step (r.onto outer) = some (r'.onto outer) := by
  induction tokens generalizing r with
  | nil =>
      obtain rfl : r = r' := by simpa using h
      rfl
  | cons t tokens ih =>
      obtain ⟨next, hstep, hread⟩ := foldlM_cons_iff.mp h
      have hopen : ∀ done, r ≠ .after [] done := by
        rintro done rfl
        simp [step, afterStep] at hstep
      rw [List.foldlM_cons, step_onto outer hopen, hstep]
      exact ih hread

/-- A value within containers is read to its end, unless the tokens end before. -/
theorem foldlM_onto_cases {tokens : List Token} {r last : Reader} {outer : List Container}
    (h : tokens.foldlM step (r.onto outer) = some last) :
    (∃ r', last = onto outer r') ∨ ∃ front rest done, tokens = front ++ rest ∧
      front.foldlM step r = some (.after [] done) ∧
      rest.foldlM step (.after outer done) = some last := by
  by_cases hdone : ∃ done, r = .after [] done
  · obtain ⟨done, rfl⟩ := hdone
    exact .inr ⟨[], tokens, done, rfl, rfl, h⟩
  induction tokens generalizing r with
  | nil =>
      obtain rfl : r.onto outer = last := by simpa using h
      exact .inl ⟨r, rfl⟩
  | cons t tokens ih =>
      rw [List.foldlM_cons, step_onto outer (not_exists.mp hdone)] at h
      cases hstep : r.step t with
      | none => simp [hstep] at h
      | some next =>
          rw [hstep] at h
          by_cases hnext : ∃ done, next = .after [] done
          · obtain ⟨done, rfl⟩ := hnext
            exact .inr ⟨[t], tokens, done, rfl, by simp [hstep], h⟩
          · rcases ih h hnext with hopen | ⟨front, rest, done, rfl, hfront, hrest⟩
            · exact .inl hopen
            · exact .inr ⟨t :: front, rest, done, rfl, by simp [hstep, hfront], hrest⟩

end Reader

/-! ## Members -/

/-- A text holds a member: a key, a colon and a value. -/
inductive SpellsMember : List UInt8 → TextLiteral × Tree → Prop where
  | mk {key value : List UInt8} {k : TextLiteral} {tree : Tree}
      (hkey : tokens? key = some [.text k]) (hvalue : Tree.ofBytes? value = some tree) :
      SpellsMember (key ++ 0x3A :: value) (k, tree)

/-- A text holds an object with these members: their texts stand between braces, with commas
between them and perhaps with blanks around. -/
inductive SpellsObject : List UInt8 → List (TextLiteral × Tree) → Prop where
  | mk {lead trail : List UInt8} {texts : List (List UInt8)} {ms : List (TextLiteral × Tree)}
      (hlead : ∀ b ∈ lead, isSpace b = true) (htrail : ∀ b ∈ trail, isSpace b = true)
      (htexts : List.Forall₂ SpellsMember texts ms) :
      SpellsObject (lead ++ 0x7B :: ([0x2C].intercalate texts ++ 0x7D :: trail)) ms

theorem ofBytes?_eq_some_iff {bytes : List UInt8} {tree : Tree} :
    Tree.ofBytes? bytes = some tree ↔ ∃ tokens, tokens? bytes = some tokens ∧
      tokens.foldlM Reader.step (.value []) = some (.after [] tree) := by
  have hfinish (r : Reader) : r.finish = some tree ↔ r = .after [] tree := by
    unfold Reader.finish
    split
    · simp
    next hopen => simpa using fun h => hopen _ h
  simp only [Tree.ofBytes?, Option.bind_eq_bind, Option.bind_eq_some_iff, hfinish, exists_eq_right]

theorem SpellsMember.tokens {bytes : List UInt8} {m : TextLiteral × Tree}
    (h : SpellsMember bytes m) : ∃ tokens, tokens? bytes = some (.text m.1 :: .colon :: tokens) ∧
      tokens.foldlM Reader.step (.value []) = some (.after [] m.2) := by
  obtain ⟨hkey, hvalue⟩ := h
  obtain ⟨tokens, hvalue, hread⟩ := ofBytes?_eq_some_iff.mp hvalue
  exact ⟨tokens, tokens?_append .colon hkey hvalue, hread⟩

theorem SpellsMember.of_tokens {bytes : List UInt8} {k : TextLiteral} {tokens : List Token}
    {tree : Tree} (h : tokens? bytes = some (.text k :: .colon :: tokens))
    (hread : tokens.foldlM Reader.step (.value []) = some (.after [] tree)) :
    SpellsMember bytes (k, tree) := by
  obtain ⟨key, c, value, rfl, hc, hkey, hvalue⟩ :=
    tokens?_split [.text k] .colon rfl h
  cases hc
  exact .mk hkey (ofBytes?_eq_some_iff.mpr ⟨tokens, hvalue, hread⟩)

/-! ## Objects -/

theorem intercalate_cons (text next : List UInt8) (texts : List (List UInt8)) :
    [0x2C].intercalate (text :: next :: texts) =
      text ++ 0x2C :: [0x2C].intercalate (next :: texts) := by
  simp [List.intercalate]

theorem SpellsMember.read {bytes : List UInt8} {m : TextLiteral × Tree}
    (h : SpellsMember bytes m) : ∃ tokens, tokens? bytes = some tokens ∧ ∀ within read,
      tokens.foldlM Reader.step (.key within read) =
        some (.after (.object read m.1 :: within) m.2) := by
  obtain ⟨tokens, htokens, hread⟩ := h.tokens
  refine ⟨_, htokens, fun within read => ?_⟩
  exact Reader.foldlM_onto hread (.object read m.1 :: within)

theorem exists_tokens_of_members {texts : List (List UInt8)} {ms : List (TextLiteral × Tree)}
    (h : List.Forall₂ SpellsMember texts ms) (hne : texts ≠ []) :
    ∃ tokens, tokens? ([0x2C].intercalate texts) = some tokens ∧ ∀ within read,
      (tokens ++ [Token.closeObject]).foldlM Reader.step (.key within read) =
        some (.after within (.object (read.reverse ++ ms))) := by
  induction h with
  | nil => exact absurd rfl hne
  | @cons text m texts ms hmember hrest ih =>
      obtain ⟨tokens, htokens, hread⟩ := hmember.read
      cases texts with
      | nil =>
          cases hrest
          refine ⟨tokens, by simpa [List.intercalate] using htokens, fun within read => ?_⟩
          rw [List.foldlM_append, hread]
          simp [Reader.step, Reader.afterStep]
      | cons next texts =>
          obtain ⟨more, hmore, hreadMore⟩ := ih (by simp)
          refine ⟨tokens ++ .comma :: more, ?_, fun within read => ?_⟩
          · rw [intercalate_cons]
            exact tokens?_append .comma htokens hmore
          · rw [List.append_assoc, List.foldlM_append, hread]
            simpa [Reader.step, Reader.afterStep] using hreadMore within (m :: read)

namespace Reader

variable {within : List Container} {read : List (TextLiteral × Tree)} {k : TextLiteral}
  {t : Token} {next : Reader}

theorem of_step_key (h : (key within read).step t = some next) :
    ∃ k, t = .text k ∧ next = .colon within read k := by
  cases t with
  | text k => exact ⟨k, rfl, (Option.some.inj h).symm⟩
  | _ => cases h

theorem of_step_colon (h : (colon within read k).step t = some next) :
    t = .colon ∧ next = .value (.object read k :: within) := by
  cases t with
  | colon => exact ⟨rfl, (Option.some.inj h).symm⟩
  | _ => cases h

theorem of_step_after {done : Tree}
    (h : (after (.object read k :: within) done).step t = some next) :
    t = .comma ∧ next = .key within ((k, done) :: read) ∨
      t = .closeObject ∧ next = .after within (.object ((k, done) :: read).reverse) := by
  cases t with
  | comma => exact .inl ⟨rfl, (Option.some.inj h).symm⟩
  | closeObject => exact .inr ⟨rfl, (Option.some.inj h).symm⟩
  | _ => cases h

/-- What is read where a key may stand: a key, a colon and a value, and then a comma and more
members, or the end of the object. -/
theorem of_foldlM_key {tokens : List Token} {tree : Tree}
    (h : tokens.foldlM step (.key [] read) = some (.after [] tree)) :
    ∃ k value done, value.foldlM step (.value []) = some (.after [] done) ∧
      ((∃ rest, tokens = .text k :: .colon :: value ++ .comma :: rest ∧
          rest.foldlM step (.key [] ((k, done) :: read)) = some (.after [] tree)) ∨
        tokens = .text k :: .colon :: value ++ [.closeObject] ∧
          tree = .object (read.reverse ++ [(k, done)])) := by
  obtain - | ⟨t, tokens⟩ := tokens
  · cases h
  obtain ⟨next, hkey, h⟩ := foldlM_cons_iff.mp h
  obtain ⟨k, rfl, rfl⟩ := of_step_key hkey
  obtain - | ⟨t, tokens⟩ := tokens
  · cases h
  obtain ⟨next, hcolon, h⟩ := foldlM_cons_iff.mp h
  obtain ⟨rfl, rfl⟩ := of_step_colon hcolon
  -- The value is read alone, up to its end.
  have hvalue : tokens.foldlM step ((value []).onto [.object read k]) = some (.after [] tree) := h
  rcases foldlM_onto_cases hvalue with ⟨r', hopen⟩ | ⟨value, rest, done, rfl, hvalue, hrest⟩
  · cases r' <;> simp [onto] at hopen
  refine ⟨k, value, done, hvalue, ?_⟩
  obtain - | ⟨t, rest⟩ := rest
  · cases hrest
  obtain ⟨next, hafter, hrest⟩ := foldlM_cons_iff.mp hrest
  rcases of_step_after hafter with ⟨rfl, rfl⟩ | ⟨rfl, rfl⟩
  · exact .inl ⟨rest, rfl, hrest⟩
  · obtain ⟨rfl, htree⟩ := eq_nil_of_foldlM_after hrest
    refine .inr ⟨rfl, ?_⟩
    simpa using htree

/-- What is read within an array is a part of it. -/
theorem isArray_of_foldlM_value {tokens : List Token} {items : List Tree} {tree : Tree}
    (h : tokens.foldlM step (.value [.array items]) = some (.after [] tree)) :
    ∃ all, tree = .array all := by
  induction hn : tokens.length using Nat.strong_induction_on generalizing tokens items with
  | _ n ih =>
      have hvalue : tokens.foldlM step ((value []).onto [.array items]) = some (.after [] tree) := h
      rcases foldlM_onto_cases hvalue with ⟨r', hopen⟩ | ⟨value, rest, done, rfl, hvalue, hrest⟩
      · cases r' <;> simp [onto] at hopen
      obtain - | ⟨t, rest⟩ := rest
      · cases hrest
      obtain ⟨next, hafter, hrest⟩ := foldlM_cons_iff.mp hrest
      cases t with
      | comma =>
          obtain rfl := Option.some.inj hafter
          rw [List.length_append, List.length_cons] at hn
          exact ih rest.length (by omega) hrest rfl
      | closeArray =>
          obtain rfl := Option.some.inj hafter
          obtain ⟨-, htree⟩ := eq_nil_of_foldlM_after hrest
          exact ⟨_, (after.inj htree).2⟩
      | _ => cases hafter

theorem isArray_of_foldlM_firstItem {tokens : List Token} {tree : Tree}
    (h : tokens.foldlM step (.firstItem []) = some (.after [] tree)) :
    ∃ all, tree = .array all := by
  obtain - | ⟨t, tokens⟩ := tokens
  · cases h
  by_cases hclose : t = .closeArray
  · subst hclose
    obtain ⟨-, htree⟩ := eq_nil_of_foldlM_after h
    exact ⟨_, (after.inj htree).2⟩
  have hitem : (t :: tokens).foldlM step (.value [.array []]) = some (.after [] tree) := by
    cases t <;> first | exact h | exact absurd rfl hclose
  exact isArray_of_foldlM_value hitem

theorem of_foldlM_firstKey {tokens : List Token} {ms : List (TextLiteral × Tree)} (hms : ms ≠ [])
    (h : tokens.foldlM step (.firstKey []) = some (.after [] (.object ms))) :
    tokens.foldlM step (.key [] []) = some (.after [] (.object ms)) := by
  obtain - | ⟨t, tokens⟩ := tokens
  · cases h
  obtain ⟨next, hfirst, hrest⟩ := foldlM_cons_iff.mp h
  cases t with
  | text k => exact h
  | closeObject =>
      obtain rfl := Option.some.inj hfirst
      obtain ⟨-, htree⟩ := eq_nil_of_foldlM_after hrest
      cases htree
      exact absurd rfl hms
  | _ => cases hfirst

theorem of_step_value (h : (value within).step t = some next) :
    t = .openObject ∧ next = .firstKey within ∨ t = .openArray ∧ next = .firstItem within ∨
      ∃ done, next = .after within done ∧ ∀ ms, done ≠ .object ms := by
  cases t with
  | openObject => exact .inl ⟨rfl, (Option.some.inj h).symm⟩
  | openArray => exact .inr (.inl ⟨rfl, (Option.some.inj h).symm⟩)
  | text literal => exact .inr (.inr ⟨_, (Option.some.inj h).symm, by simp⟩)
  | number bytes =>
      obtain ⟨n, -, rfl⟩ := Option.map_eq_some_iff.mp h
      exact .inr (.inr ⟨_, rfl, by simp⟩)
  | word bytes =>
      obtain ⟨done, hword, rfl⟩ := Option.map_eq_some_iff.mp h
      refine .inr (.inr ⟨done, rfl, ?_⟩)
      rintro ms rfl
      unfold word? at hword
      repeat' split at hword
      all_goals cases hword
  | _ => cases h

/-- An object with members begins with a brace and a key. -/
theorem of_foldlM_object {tokens : List Token} {ms : List (TextLiteral × Tree)} (hms : ms ≠ [])
    (h : tokens.foldlM step (.value []) = some (.after [] (.object ms))) :
    ∃ rest, tokens = .openObject :: rest ∧
      rest.foldlM step (.key [] []) = some (.after [] (.object ms)) := by
  obtain - | ⟨t, tokens⟩ := tokens
  · cases h
  obtain ⟨next, hstep, hrest⟩ := foldlM_cons_iff.mp h
  rcases of_step_value hstep with ⟨rfl, rfl⟩ | ⟨rfl, rfl⟩ | ⟨done, rfl, hdone⟩
  · exact ⟨tokens, rfl, of_foldlM_firstKey hms hrest⟩
  · obtain ⟨all, hall⟩ := isArray_of_foldlM_firstItem hrest
    cases hall
  · obtain ⟨-, htree⟩ := eq_nil_of_foldlM_after hrest
    exact absurd (after.inj htree).2.symm (hdone ms)

end Reader

/-- A text that is read from a key on to the end of an object falls apart into members. -/
theorem exists_members {bytes : List UInt8} {tokens : List Token}
    {read : List (TextLiteral × Tree)} {tree : Tree} (htokens : tokens? bytes = some tokens)
    (hread : tokens.foldlM Reader.step (.key [] read) = some (.after [] tree)) :
    ∃ texts ms trail, bytes = [0x2C].intercalate texts ++ 0x7D :: trail ∧
      (∀ b ∈ trail, isSpace b = true) ∧ List.Forall₂ SpellsMember texts ms ∧ texts ≠ [] ∧
      tree = .object (read.reverse ++ ms) := by
  induction hn : tokens.length using Nat.strong_induction_on generalizing bytes tokens read with
  | _ n ih =>
      obtain ⟨k, value, done, hvalue, ⟨rest, rfl, hrest⟩ | ⟨rfl, rfl⟩⟩ :=
        Reader.of_foldlM_key hread
      · obtain ⟨text, c, more, rfl, hc, htext, hmore⟩ :=
          tokens?_split (.text k :: .colon :: value) .comma rfl htokens
        cases hc
        simp only [List.length_append, List.length_cons] at hn
        obtain ⟨texts, ms, trail, rfl, htrail, htexts, hne, rfl⟩ :=
          ih rest.length (by omega) hmore hrest rfl
        refine ⟨text :: texts, (k, done) :: ms, trail, ?_, htrail,
          .cons (.of_tokens htext hvalue) htexts, by simp, by simp⟩
        obtain ⟨next, texts, rfl⟩ := List.exists_cons_of_ne_nil hne
        simp
      · obtain ⟨text, c, trail, rfl, hc, htext, htrail⟩ :=
          tokens?_split (.text k :: .colon :: value) .closeObject rfl htokens
        cases hc
        exact ⟨[text], [(k, done)], trail, by simp [List.intercalate],
          tokens?_eq_nil_iff.mp htrail, .cons (.of_tokens htext hvalue) .nil, by simp, rfl⟩

/-- A text is read as an object with members exactly if it holds one. -/
theorem ofBytes?_object_iff {bytes : List UInt8} {ms : List (TextLiteral × Tree)} (hms : ms ≠ []) :
    Tree.ofBytes? bytes = some (.object ms) ↔ SpellsObject bytes ms := by
  rw [ofBytes?_eq_some_iff]
  constructor
  · rintro ⟨tokens, htokens, hread⟩
    obtain ⟨rest, rfl, hkey⟩ := Reader.of_foldlM_object hms hread
    obtain ⟨lead, c, more, rfl, hc, hlead, hmore⟩ :=
      tokens?_split [] .openObject rfl htokens
    cases hc
    obtain ⟨texts, ms', trail, rfl, htrail, htexts, -, hsame⟩ := exists_members hmore hkey
    obtain rfl : ms = ms' := by simpa using hsame
    exact .mk (tokens?_eq_nil_iff.mp hlead) htrail htexts
  · rintro @⟨lead, trail, texts, _, hlead, htrail, htexts⟩
    have hne : texts ≠ [] := by
      rintro rfl
      cases htexts
      exact hms rfl
    obtain ⟨tokens, htokens, hread⟩ := exists_tokens_of_members htexts hne
    have hclosed := tokens?_append .closeObject htokens (tokens?_eq_nil_iff.mpr htrail)
    have hopened := tokens?_append .openObject (tokens?_eq_nil_iff.mpr hlead) hclosed
    refine ⟨_, hopened, ?_⟩
    exact firstKey_of_key (hread [] [])

end TaskMonitor.Json
