import Mathlib.Data.List.TakeWhile
import TaskMonitor.Gateway.Exchange
import TaskMonitor.Proofs.Location.Percent

/-! # Paths below a location

A text behind the slash that ends a location goes on with its path, as long as nothing in it begins
another part or takes a segment back. -/

namespace TaskMonitor

/-! ## Up to a mark -/

theorem takeWhile_append_stop {α : Type} {p : α → Bool} {c : α} (h : p c = false)
    (xs ys : List α) : (xs ++ c :: ys).takeWhile p = xs.takeWhile p := by
  induction xs with
  | nil => simp [h]
  | cons x xs ih =>
      cases hx : p x with
      | true => simp [hx, ih]
      | false => simp [hx]

theorem dropWhile_append_stop {α : Type} {p : α → Bool} {c : α} (h : p c = false)
    (xs ys : List α) : (xs ++ c :: ys).dropWhile p = xs.dropWhile p ++ c :: ys := by
  induction xs with
  | nil => simp [h]
  | cons x xs ih =>
      cases hx : p x with
      | true => simp [hx, ih]
      | false => simp [hx]

namespace Host

/-! ## Segments -/

theorem splitAt_ne_nil (mark : Char) (text : List Char) : splitAt mark text ≠ [] := by
  cases text with
  | nil => simp [splitAt]
  | cons c text =>
      rw [splitAt]
      split
      · simp
      · split <;> simp

theorem splitAt_append (mark : Char) (xs ys : List Char) :
    splitAt mark (xs ++ mark :: ys) = splitAt mark xs ++ splitAt mark ys := by
  induction xs with
  | nil => simp [splitAt]
  | cons c xs ih =>
      rw [List.cons_append, splitAt, splitAt, ih]
      split
      · rfl
      · obtain ⟨first, more, hsplit⟩ := List.exists_cons_of_ne_nil (splitAt_ne_nil mark xs)
        rw [hsplit]
        rfl

theorem join_cons (mark : Char) (piece : List Char) {pieces : List (List Char)}
    (h : pieces ≠ []) : join mark (piece :: pieces) = piece ++ mark :: join mark pieces := by
  rw [join, List.intercalate_cons_of_ne_nil h, join, List.append_assoc, List.singleton_append]

theorem join_append (mark : Char) (xs : List (List Char)) {ys : List (List Char)} (h : ys ≠ []) :
    join mark (xs ++ ys) = join mark (xs ++ [[]]) ++ join mark ys := by
  induction xs with
  | nil => simp [join]
  | cons x xs ih =>
      rw [List.cons_append, List.cons_append, join_cons mark x (by simp [h]),
        join_cons mark x (by simp), ih, List.append_assoc, List.cons_append]

theorem join_splitAt (mark : Char) (text : List Char) : join mark (splitAt mark text) = text := by
  induction text with
  | nil => simp [splitAt, join]
  | cons c text ih =>
      have hne := splitAt_ne_nil mark text
      rw [splitAt]
      split
      next hmark => rw [join_cons mark [] hne, ih, hmark, List.nil_append]
      next =>
        obtain ⟨first, more, hsplit⟩ := List.exists_cons_of_ne_nil hne
        rw [hsplit] at ih ⊢
        rw [← ih]
        exact List.intercalate_cons_cons_left

end Host

namespace Location

open Host (splitAt join)

/-! ## Resolving -/

/-- The text can stand in a path as it is, but for characters that are escaped: it begins no query
and no fragment, does not end in what is left out at the end of an address, and no segment of it
means another one. -/
structure IsPath (text : List Char) : Prop where
  plain : ∀ c ∈ text, c ∉ ['#', '?', '\\', '\t', '\n', '\r']
  closed : ∀ c ∈ text.getLast?, 0x20 < c.toNat
  straight : ∀ segment ∈ splitAt '/' text, isDot segment = false ∧ isDoubleDot segment = false

instance (text : List Char) : Decidable (IsPath text) :=
  decidable_of_iff
    ((text.all fun c => decide (c ∉ ['#', '?', '\\', '\t', '\n', '\r'])) = true ∧
      (text.getLast?.all fun c => decide (0x20 < c.toNat)) = true ∧
      ((splitAt '/' text).all fun segment => !isDot segment && !isDoubleDot segment) = true)
    ⟨fun ⟨hplain, hclosed, hstraight⟩ =>
      ⟨by simpa using hplain, by simpa [Option.all_eq_true] using hclosed,
        by simpa using hstraight⟩,
      fun h => ⟨by simpa using h.plain, by simpa [Option.all_eq_true] using h.closed,
        by simpa using h.straight⟩⟩

/-- Segments before the last lead somewhere, whatever follows them. -/
theorem resolve_append (read segments : List (List Char)) :
    ∃ left, ∀ rest, rest ≠ [] → resolve read (segments ++ rest) = resolve left rest := by
  induction segments generalizing read with
  | nil => exact ⟨read, fun _ _ => rfl⟩
  | cons segment segments ih =>
      have hends : ∀ rest : List (List Char), rest ≠ [] →
          (segments ++ rest).isEmpty = false := by
        intro rest hrest
        simp [hrest]
      cases hdouble : isDoubleDot segment with
      | true =>
          obtain ⟨left, hleft⟩ := ih read.tail
          refine ⟨left, fun rest hrest => ?_⟩
          simp [resolve, hdouble, hends rest hrest, hleft rest hrest]
      | false =>
          cases hdot : isDot segment with
          | true =>
              obtain ⟨left, hleft⟩ := ih read
              refine ⟨left, fun rest hrest => ?_⟩
              simp [resolve, hdouble, hdot, hends rest hrest, hleft rest hrest]
          | false =>
              obtain ⟨left, hleft⟩ := ih (Percent.encode Percent.pathSet segment :: read)
              refine ⟨left, fun rest hrest => ?_⟩
              simp [resolve, hdouble, hdot, hleft rest hrest]

theorem resolve_straight (read : List (List Char)) {segments : List (List Char)}
    (h : ∀ segment ∈ segments, isDot segment = false ∧ isDoubleDot segment = false) :
    resolve read segments =
      (segments.map (Percent.encode Percent.pathSet)).reverse ++ read := by
  induction segments generalizing read with
  | nil => rfl
  | cons segment segments ih =>
      obtain ⟨hdot, hdouble⟩ := h segment (.head _)
      rw [resolve, hdot, hdouble]
      simp [ih _ fun s hs => h s (.tail _ hs)]

theorem encode_join {segments : List (List Char)} :
    Percent.encode Percent.pathSet (join '/' segments) =
      join '/' (segments.map (Percent.encode Percent.pathSet)) := by
  induction segments with
  | nil => rfl
  | cons segment segments ih =>
      by_cases hrest : segments = []
      · simp [hrest, join]
      · rw [Host.join_cons '/' segment hrest, List.map_cons,
          Host.join_cons '/' _ (by simpa using hrest), Percent.encode_append,
          Percent.encode_kept (by decide), ih]

theorem resolved_append (segments : List (List Char)) {text : List Char}
    (h : ∀ segment ∈ splitAt '/' text, isDot segment = false ∧ isDoubleDot segment = false) :
    '/' :: join '/' (resolve [] (segments ++ splitAt '/' text)).reverse =
      '/' :: join '/' (resolve [] (segments ++ [[]])).reverse ++
        Percent.encode Percent.pathSet text := by
  obtain ⟨left, hleft⟩ := resolve_append [] segments
  have hsplit := Host.splitAt_ne_nil '/' text
  have hroot : resolve left [[]] = [] :: left := rfl
  rw [hleft _ hsplit, resolve_straight left h, hleft _ (by simp), hroot, List.reverse_append,
    List.reverse_reverse, List.reverse_cons, Host.join_append '/' _ (by simpa using hsplit),
    ← encode_join, Host.join_splitAt, List.cons_append]

theorem resolved_below (front : List Char) {text : List Char}
    (h : ∀ segment ∈ splitAt '/' text, isDot segment = false ∧ isDoubleDot segment = false) :
    resolved (front ++ '/' :: text).tail =
      resolved (front ++ ['/']).tail ++ Percent.encode Percent.pathSet text := by
  cases front with
  | nil => exact resolved_append [] h
  | cons c front =>
      have htext := Host.splitAt_append '/' front text
      have hroot := Host.splitAt_append '/' front []
      rw [List.cons_append, List.cons_append, List.tail_cons, List.tail_cons, resolved, resolved,
        htext, hroot]
      exact resolved_append (splitAt '/' front) h

/-- Paths behind each other, with a slash between them, are one path. -/
theorem IsPath.append {front text : List Char} (hfront : IsPath front) (h : IsPath text) :
    IsPath (front ++ '/' :: text) where
  plain := by
    intro c hc
    rcases List.mem_append.mp hc with hc | hc
    · exact hfront.plain c hc
    rcases List.mem_cons.mp hc with rfl | hc
    · decide
    · exact h.plain c hc
  closed := by
    intro c hc
    rw [List.getLast?_append, List.getLast?_cons, Option.some_or, Option.mem_some_iff] at hc
    cases hlast : text.getLast? with
    | none =>
        obtain rfl : '/' = c := by simpa [hlast] using hc
        decide
    | some last =>
        obtain rfl : last = c := by simpa [hlast] using hc
        exact h.closed last hlast
  straight := by
    intro segment hsegment
    rw [Host.splitAt_append] at hsegment
    rcases List.mem_append.mp hsegment with hsegment | hsegment
    · exact hfront.straight segment hsegment
    · exact h.straight segment hsegment

/-! ## Reading what goes on -/

theorem isPath_nil : IsPath [] := by decide

theorem IsPath.not_mem {text : List Char} (h : IsPath text) {c : Char}
    (hc : c ∈ ['#', '?', '\\', '\t', '\n', '\r']) : c ∉ text :=
  fun hmem => h.plain c hmem hc

/-- With a slash before it, a path ends in what an address keeps. -/
theorem IsPath.exists_last {text : List Char} (h : IsPath text) :
    ∃ last rest, ('/' :: text).reverse = last :: rest ∧ 0x20 < last.toNat := by
  cases hlast : text.getLast? with
  | none =>
      obtain rfl := List.getLast?_eq_none_iff.mp hlast
      exact ⟨'/', [], rfl, by decide⟩
  | some last =>
      obtain ⟨rest, rfl⟩ := List.getLast?_eq_some_iff.mp hlast
      exact ⟨last, ('/' :: rest).reverse, by simp, h.closed last hlast⟩

theorem IsPath.filter_eq {text : List Char} (h : IsPath text) :
    ('/' :: text).filter (fun c => c ≠ '\t' ∧ c ≠ '\n' ∧ c ≠ '\r') = '/' :: text := by
  rw [List.filter_eq_self]
  intro c hc
  rcases List.mem_cons.mp hc with rfl | hc
  · decide
  · have hplain := h.plain c hc
    simp only [List.mem_cons, List.not_mem_nil, or_false, not_or] at hplain
    simp [hplain]

/-- An address loses what it would lose before the slash, and nothing of the path. -/
theorem clean_append (front : List Char) {text : List Char} (h : IsPath text) :
    clean (front ++ '/' :: text) =
      ((front.dropWhile fun c => c.toNat ≤ 0x20).filter fun c => c ≠ '\t' ∧ c ≠ '\n' ∧ c ≠ '\r') ++
        '/' :: text := by
  obtain ⟨last, rest, hreverse, hlast⟩ := h.exists_last
  rw [clean, dropWhile_append_stop (by decide), List.reverse_append, hreverse, List.cons_append,
    List.dropWhile_cons_of_neg (by simpa using hlast), ← List.cons_append, ← hreverse,
    ← List.reverse_append, List.reverse_reverse, List.filter_append, h.filter_eq]

theorem scheme?_eq_some_iff {text scheme rest : List Char} :
    scheme? text = some (scheme, rest) ↔
      ∃ first name, text.takeWhile isSchemeChar = first :: name ∧
        text.drop (first :: name).length = ':' :: rest ∧ isLetter first = true ∧
        (first :: name).map Host.lower = scheme := by
  constructor
  · intro h
    simp only [scheme?] at h
    split at h
    next first name rest' hname hrest =>
      obtain ⟨hletter, h⟩ | ⟨-, h⟩ := ite_eq_iff.mp h
      · obtain ⟨hscheme, rfl⟩ := Prod.mk.inj (Option.some.inj h)
        rw [hname] at hrest hscheme
        exact ⟨first, name, hname, hrest, hletter, hscheme⟩
      · cases h
    next => cases h
  · rintro ⟨first, name, hname, hrest, hletter, rfl⟩
    simp only [scheme?, hname, hrest, if_pos hletter]

theorem scheme?_append {front rest scheme : List Char}
    (h : scheme? (front ++ ['/']) = some (scheme, rest)) :
    ∃ behind, rest = behind ++ ['/'] ∧
      ∀ text, scheme? (front ++ '/' :: text) = some (scheme, behind ++ '/' :: text) := by
  obtain ⟨first, name, hname, hrest, hletter, hscheme⟩ := scheme?_eq_some_iff.mp h
  rw [takeWhile_append_stop (by decide)] at hname
  have hle : (first :: name).length ≤ front.length :=
    hname ▸ (List.takeWhile_prefix _).length_le
  rw [List.drop_append_of_le_length hle] at hrest
  obtain ⟨-, hslash⟩ | ⟨behind, hbehind, rfl⟩ := List.append_eq_cons_iff.mp hrest
  · simp at hslash
  refine ⟨behind, rfl, fun text => scheme?_eq_some_iff.mpr ⟨first, name, ?_, ?_, hletter, hscheme⟩⟩
  · rw [takeWhile_append_stop (by decide), hname]
  · rw [List.drop_append_of_le_length hle, hbehind, List.cons_append]

theorem splitBefore_eq_iff {stop : Char → Bool} {text : List Char} :
    splitBefore stop text = (text, []) ↔ ∀ c ∈ text, stop c = false := by
  simp [splitBefore]

theorem tail?_eq_none_iff {text : List Char} : text.tail? = none ↔ text = [] := by
  cases text <;> simp

theorem Tail.ofText_plain {text : List Char} (h : ∀ c ∈ text, c ≠ '#' ∧ c ≠ '?') :
    Tail.ofText text = ⟨text, none, none⟩ := by
  have hfragment : splitBefore (· = '#') text = (text, []) :=
    splitBefore_eq_iff.mpr fun c hc => decide_eq_false (h c hc).1
  have hquery : splitBefore (· = '?') text = (text, []) :=
    splitBefore_eq_iff.mpr fun c hc => decide_eq_false (h c hc).2
  simp [Tail.ofText, hfragment, hquery]

theorem Tail.plain_of_none {text : List Char} (hquery : (Tail.ofText text).query = none)
    (hfragment : (Tail.ofText text).fragment = none) : ∀ c ∈ text, c ≠ '#' ∧ c ≠ '?' := by
  have hsplit {mark : Char} {part : List Char}
      (h : (splitBefore (fun c => decide (c = mark)) part).2 = []) :
      splitBefore (fun c => decide (c = mark)) part = (part, []) := by
    have hall : ∀ c ∈ part, decide (c = mark) = false := by simpa [splitBefore] using h
    exact splitBefore_eq_iff.mpr hall
  have hfront := hsplit (tail?_eq_none_iff.mp hfragment)
  simp only [Tail.ofText, hfront] at hquery
  have hpath := hsplit (tail?_eq_none_iff.mp hquery)
  intro c hc
  exact ⟨of_decide_eq_false (splitBefore_eq_iff.mp hfront c hc),
    of_decide_eq_false (splitBefore_eq_iff.mp hpath c hc)⟩

theorem Tail.ofText_append {front : List Char}
    (hquery : (Tail.ofText (front ++ ['/'])).query = none)
    (hfragment : (Tail.ofText (front ++ ['/'])).fragment = none) {text : List Char}
    (h : IsPath text) :
    Tail.ofText (front ++ '/' :: text) = ⟨front ++ '/' :: text, none, none⟩ := by
  apply Tail.ofText_plain
  intro c hc
  rcases List.mem_append.mp hc with hc | hc
  · exact Tail.plain_of_none hquery hfragment c (List.mem_append_left _ hc)
  rcases List.mem_cons.mp hc with rfl | hc
  · decide
  · exact ⟨fun heq => h.not_mem (by simp) (heq ▸ hc), fun heq => h.not_mem (by simp) (heq ▸ hc)⟩

theorem slashes_append (front : List Char) {text : List Char} (h : IsPath text) :
    slashes (front ++ '/' :: text) = slashes front ++ '/' :: text := by
  have htext : slashes text = text := by
    refine (List.map_congr_left fun c hc => ?_).trans (List.map_id _)
    have hback : c ≠ '\\' := fun heq => h.not_mem (by simp) (heq ▸ hc)
    simp [hback]
  rw [slashes, List.map_append, List.map_cons]
  exact congrArg (_ ++ '/' :: ·) htext

/-! ## Locations -/

/-- The location of a text behind the slash that ends another one. -/
def below (l : Location) (text : List Char) : Location :=
  { l with path := l.path ++ Percent.encode Percent.pathSet text }

theorem dropWhile_isSlash_ne_nil {scheme front : List Char} {usual : Nat} {l : Location}
    (h : ofUsual? scheme usual (front ++ ['/']) = some l) : front.dropWhile isSlash ≠ [] := by
  intro hnil
  have hslashes : (front ++ ['/']).dropWhile isSlash = [] := by
    rw [List.dropWhile_append, hnil]
    rfl
  have hhost : authority? (some usual) Host.ofText? [] = none := rfl
  rw [ofUsual?, hslashes] at h
  simp [splitBefore, hhost] at h

theorem ofUsual?_below {scheme front : List Char} {usual : Nat} {l : Location}
    (h : ofUsual? scheme usual (front ++ ['/']) = some l) (hquery : l.query = none)
    (hfragment : l.fragment = none) {text : List Char} (htext : IsPath text) :
    ofUsual? scheme usual (front ++ '/' :: text) = some (l.below text) := by
  have hfront := dropWhile_isSlash_ne_nil h
  have hslashes (text : List Char) : (front ++ '/' :: text).dropWhile isSlash =
      front.dropWhile isSlash ++ '/' :: text := by
    rw [List.dropWhile_append]
    simp [hfront]
  have hsplit (text : List Char) : splitBefore endsHost (front.dropWhile isSlash ++ '/' :: text) =
      ((splitBefore endsHost (front.dropWhile isSlash)).1,
        (splitBefore endsHost (front.dropWhile isSlash)).2 ++ '/' :: text) := by
    simp only [splitBefore, takeWhile_append_stop (p := fun c => !endsHost c) (c := '/') rfl,
      dropWhile_append_stop (p := fun c => !endsHost c) (c := '/') rfl]
  simp only [ofUsual?, hslashes, hsplit] at h ⊢
  generalize splitBefore endsHost (front.dropWhile isSlash) = parts at h ⊢
  obtain ⟨authority, behind⟩ := parts
  simp only [Option.bind_eq_bind, Option.bind_eq_some_iff] at h ⊢
  obtain ⟨⟨host, number⟩, hauthority, hl⟩ := h
  refine ⟨(host, number), hauthority, ?_⟩
  obtain rfl := Option.some.inj hl
  have hroot := Tail.ofText_append (Option.map_eq_none_iff.mp hquery)
    (Option.map_eq_none_iff.mp hfragment) isPath_nil
  have hbelow := Tail.ofText_append (Option.map_eq_none_iff.mp hquery)
    (Option.map_eq_none_iff.mp hfragment) htext
  simp only [below, hroot, hbelow, slashes_append behind isPath_nil, slashes_append behind htext,
    resolved_below _ htext.straight, Option.map_none]
  rfl

/-! ## Web servers -/

theorem scheme_of_ofFile? {scheme text : List Char} {l : Location}
    (h : ofFile? scheme text = some l) : l.scheme = scheme := by
  simp only [ofFile?, Option.bind_eq_bind] at h
  obtain ⟨-, h⟩ | ⟨-, h⟩ := ite_eq_iff.mp h
  · obtain ⟨host, -, hl⟩ := Option.bind_eq_some_iff.mp h
    obtain rfl := Option.some.inj hl
    rfl
  · obtain ⟨host, -, hl⟩ := Option.bind_eq_some_iff.mp h
    obtain rfl := Option.some.inj hl
    rfl

theorem scheme_of_ofOther? {scheme text : List Char} {l : Location}
    (h : ofOther? scheme text = some l) : l.scheme = scheme := by
  unfold ofOther? at h
  split at h
  · dsimp only at h
    obtain ⟨-, h⟩ | ⟨-, h⟩ := ite_eq_iff.mp h
    · obtain rfl := Option.some.inj h
      rfl
    · obtain ⟨⟨host, number⟩, -, hl⟩ := Option.bind_eq_some_iff.mp h
      obtain ⟨-, hl⟩ | ⟨-, hl⟩ := ite_eq_iff.mp hl
      · cases hl
      · obtain rfl := Option.some.inj hl
        rfl
  · obtain rfl := Option.some.inj h
    rfl
  · obtain rfl := Option.some.inj h
    rfl

theorem ofText?_of_isWeb {text : List Char} {l : Location} (h : ofText? text = some l)
    (hweb : l.isWeb = true) :
    ∃ scheme rest usual, scheme? (clean text) = some (scheme, rest) ∧
      usualNumber? scheme = some usual ∧ ofUsual? scheme usual rest = some l := by
  simp only [ofText?, Option.bind_eq_bind, Option.bind_eq_some_iff] at h
  obtain ⟨⟨scheme, rest⟩, hscheme, hl⟩ := h
  refine ⟨scheme, rest, ?_⟩
  cases husual : usualNumber? scheme with
  | some usual =>
      simp only [husual] at hl
      exact ⟨usual, hscheme, rfl, hl⟩
  | none =>
      have hother : l.scheme = scheme := by
        simp only [husual] at hl
        split at hl
        · exact scheme_of_ofFile? hl
        · exact scheme_of_ofOther? hl
      rw [isWeb, hother, Bool.or_eq_true, decide_eq_true_eq, decide_eq_true_eq] at hweb
      rcases hweb with rfl | rfl
      · cases husual
      · cases husual

/-- Below the location of a web server a path goes on, whatever it is. -/
theorem ofText?_below {front : List Char} {l : Location} (h : ofText? (front ++ ['/']) = some l)
    (hweb : l.isWeb = true) (hquery : l.query = none) (hfragment : l.fragment = none)
    {text : List Char} (htext : IsPath text) :
    ofText? (front ++ '/' :: text) = some (l.below text) := by
  obtain ⟨scheme, rest, usual, hscheme, husual, hl⟩ := ofText?_of_isWeb h hweb
  rw [clean_append front isPath_nil] at hscheme
  obtain ⟨behind, rfl, hbehind⟩ := scheme?_append hscheme
  have hbelow := ofUsual?_below hl hquery hfragment htext
  simp only [ofText?, clean_append front htext, hbehind, Option.bind_eq_bind, Option.bind_some,
    husual, hbelow]

end Location

end TaskMonitor
