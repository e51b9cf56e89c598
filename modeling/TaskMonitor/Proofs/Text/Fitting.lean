import Mathlib.Data.List.TakeDrop
import TaskMonitor.Text.Fit

/-! # Texts that were made to fit

A text that is too wide is cut as late as the ellipsis allows. Characters may take no column or
several, so columns and characters are counted apart. -/

namespace TaskMonitor.Text

section

variable {width : Char → Nat}

/-! ## Columns -/

theorem columnsOf_append (xs ys : List Char) :
    columnsOf width (xs ++ ys) = columnsOf width xs + columnsOf width ys := by
  induction xs with
  | nil => simp [columnsOf]
  | cons c xs ih =>
      simp only [List.cons_append, columnsOf, ih]
      omega

theorem columnsOf_mono {xs ys : List Char} (h : xs <+: ys) :
    columnsOf width xs ≤ columnsOf width ys := by
  obtain ⟨rest, rfl⟩ := h
  rw [columnsOf_append]
  exact Nat.le_add_right _ _

theorem columnsOf_eq_length {text : List Char} (h : ∀ c ∈ text, width c = 1) :
    columnsOf width text = text.length := by
  induction text with
  | nil => rfl
  | cons c text ih =>
      rw [columnsOf, h c (.head _), ih fun d hd => h d (.tail _ hd), List.length_cons]
      omega

theorem columnsOf_ellipsis (hdot : width '.' = 1) :
    columnsOf width ellipsis = ellipsis.length := by
  apply columnsOf_eq_length
  intro c hc
  obtain rfl : c = '.' := by simpa [ellipsis] using hc
  exact hdot

/-! ## The longest beginning -/

/-- A beginning of the text whose columns never exceed the room, and that holds every other one
which does not either. -/
structure IsLongestWithin (width : Char → Nat) (room : Nat) (text front : List Char) : Prop where
  isPrefix : front <+: text
  fits : ∀ xs, xs <+: front → columnsOf width xs ≤ room
  longest : ∀ xs, xs <+: text → columnsOf width xs ≤ room → xs <+: front

theorem within_prefix (room : Nat) (text : List Char) : within width room text <+: text := by
  induction text generalizing room with
  | nil => exact List.nil_prefix
  | cons c text ih =>
      rw [within]
      split
      · exact List.cons_prefix_cons.mpr ⟨rfl, ih _⟩
      · exact List.nil_prefix

theorem columnsOf_within_le (room : Nat) (text : List Char) :
    columnsOf width (within width room text) ≤ room := by
  induction text generalizing room with
  | nil => exact Nat.zero_le _
  | cons c text ih =>
      rw [within]
      split
      next hfits =>
        have hrest := ih (room - width c)
        rw [columnsOf]
        omega
      next => exact Nat.zero_le _

theorem prefix_within {room : Nat} {text xs : List Char} (h : xs <+: text)
    (hfits : columnsOf width xs ≤ room) : xs <+: within width room text := by
  induction text generalizing room xs with
  | nil => exact h
  | cons c text ih =>
      cases xs with
      | nil => exact List.nil_prefix
      | cons d xs =>
          obtain ⟨rfl, hrest⟩ := List.cons_prefix_cons.mp h
          rw [columnsOf] at hfits
          have hfirst : width d ≤ room := by omega
          rw [within, if_pos hfirst]
          exact List.cons_prefix_cons.mpr ⟨rfl, ih hrest (by omega)⟩

theorem isLongestWithin (width : Char → Nat) (room : Nat) (text : List Char) :
    IsLongestWithin width room text (within width room text) where
  isPrefix := within_prefix room text
  fits _ h := Nat.le_trans (columnsOf_mono h) (columnsOf_within_le room text)
  longest _ := prefix_within

/-! ## Fitting -/

/-- What is shown of a text takes no more columns than there are; it is the whole text if that
does not, and else the longest beginning that leaves room for an ellipsis. -/
structure Fitted (width : Char → Nat) (columns : Nat) (text shown : List Char) : Prop where
  fits : columnsOf width shown ≤ columns
  whole_iff : shown = text ↔ columnsOf width text ≤ columns
  cut : columns < columnsOf width text → ellipsis.length ≤ columns →
    ∃ front, shown = front ++ ellipsis ∧
      IsLongestWithin width (columns - ellipsis.length) text front

theorem fitted_of_le (hdot : width '.' = 1) {columns : Nat} (h : ellipsis.length ≤ columns)
    (text : List Char) : Fitted width columns text (fitBy width columns text) := by
  have hroom : ¬ columns < ellipsis.length := by omega
  by_cases hwhole : columnsOf width text ≤ columns
  · rw [fitBy, if_neg hroom, if_pos hwhole]
    exact ⟨hwhole, by simp [hwhole], fun hcut => absurd hwhole (Nat.not_le.mpr hcut)⟩
  · rw [fitBy, if_neg hroom, if_neg hwhole]
    have hfront := isLongestWithin width (columns - ellipsis.length) text
    have hfits : columnsOf width (within width (columns - ellipsis.length) text ++ ellipsis) ≤
        columns := by
      rw [columnsOf_append, columnsOf_ellipsis hdot]
      have hcolumns := hfront.fits _ List.prefix_rfl
      omega
    refine ⟨hfits, ⟨fun heq => ?_, fun hle => absurd hle hwhole⟩, fun _ _ => ⟨_, rfl, hfront⟩⟩
    exact absurd (heq ▸ hfits) hwhole

theorem fitted_of_lt_iff {columns : Nat} (h : columns < ellipsis.length) (text : List Char) :
    Fitted width columns text (fitBy width columns text) ↔
      columnsOf width (text.take columns) ≤ columns ∧
        (columnsOf width text ≤ columns → text.length ≤ columns) := by
  rw [fitBy, if_pos h]
  constructor
  · rintro ⟨hfits, hwhole, -⟩
    exact ⟨hfits, fun hle => (List.take_eq_self_iff text).mp (hwhole.mpr hle)⟩
  · rintro ⟨hfits, hshort⟩
    refine ⟨hfits, ⟨fun heq => heq ▸ hfits, fun hle => ?_⟩, fun _ hle => ?_⟩
    · exact (List.take_eq_self_iff text).mpr (hshort hle)
    · exact absurd h (Nat.not_lt.mpr hle)

/-- However wide its characters are, a text is fitted to columns that can hold an ellipsis. Fewer
columns hold as many characters, and these must neither overflow nor leave out the rest of a text
that fits. They do not if each takes one column. -/
theorem fitted_fitBy (hdot : width '.' = 1) (columns : Nat) (text : List Char) :
    (Fitted width columns text (fitBy width columns text) ↔
      ellipsis.length ≤ columns ∨ columnsOf width (text.take columns) ≤ columns ∧
        (columnsOf width text ≤ columns → text.length ≤ columns)) ∧
    ((∀ c ∈ text, width c = 1) → Fitted width columns text (fitBy width columns text)) := by
  have hiff : Fitted width columns text (fitBy width columns text) ↔
      ellipsis.length ≤ columns ∨ columnsOf width (text.take columns) ≤ columns ∧
        (columnsOf width text ≤ columns → text.length ≤ columns) := by
    by_cases hroom : ellipsis.length ≤ columns
    · exact ⟨fun _ => .inl hroom, fun _ => fitted_of_le hdot hroom text⟩
    · rw [fitted_of_lt_iff (Nat.not_le.mp hroom)]
      exact ⟨.inr, fun h => h.resolve_left hroom⟩
  refine ⟨hiff, fun hone => hiff.mpr (.inr ⟨?_, ?_⟩)⟩
  · rw [columnsOf_eq_length fun c hc => hone c (List.mem_of_mem_take hc), List.length_take]
    exact Nat.min_le_left _ _
  · rw [columnsOf_eq_length hone]
    exact id

end

/-- Of wide characters and a combining one, the last that fits beside the ellipsis takes no
column. A wide character is fitted to no columns, and not to one. -/
theorem wide_text_fitted :
    width '.' = 1 ∧ ellipsis.length ≤ 7 ∧
      Fitted width 7 "任务\u0301状态".toList "任务\u0301...".toList ∧
      Fitted width 0 "任".toList [] ∧ ¬ Fitted width 1 "任".toList "任".toList := by
  have hdot : width '.' = 1 := by decide
  have hshown : fitBy width 7 "任务\u0301状态".toList = "任务\u0301...".toList := by decide +kernel
  refine ⟨hdot, by decide, ?_, ?_, ?_⟩
  · rw [← hshown]
    exact (fitted_fitBy hdot 7 _).1.mpr (.inl (by decide))
  · exact (fitted_fitBy hdot 0 "任".toList).1.mpr (.inr (by decide +kernel))
  · exact fun h => absurd ((fitted_fitBy hdot 1 "任".toList).1.mp h) (by decide +kernel)

/-- In fewer columns than an ellipsis takes, a wide character overflows, and a text that would fit
is cut if it has characters without a column. -/
theorem few_columns_misfit :
    (fit 1 "任" = "任" ∧ columnsOf width "任".toList = 2) ∧
      (fit 2 "e\u0301\u0302" = "e\u0301" ∧ columnsOf width "e\u0301\u0302".toList = 1) ∧
      ¬ ∀ width : Char → Nat, (∀ c, width c ≤ 2) → width '.' = 1 → ∀ columns text,
        Fitted width columns text (fitBy width columns text) := by
  refine ⟨⟨by decide +kernel, by decide +kernel⟩, ⟨by decide +kernel, by decide +kernel⟩, ?_⟩
  intro h
  have hfitted := h (fun c => if c = '任' then 2 else 1) (fun c => by split <;> omega) rfl 1 ['任']
  exact absurd hfitted.fits (by decide)

end TaskMonitor.Text
