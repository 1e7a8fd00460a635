import Mathlib.Data.List.Infix
import NodeAlerts.Time.Span

/-!
# Lengths of time in texts

A text such as `1d 2h 3s` shows what a clock shows of a length of time: days, hours, minutes and
seconds, without those of which there are none (`Span.Clock.shown`).  Nothing is lost by that beyond
the fraction of a second (`duration_text_unambiguous`).

Two facts carry this.  A text tells its components (`listed_injective`): a blank stands only between
two of them, and each ends with the letter of its unit.  And the components tell the seconds, also
where some are left out (`lengthOf_written`).
-/

namespace NodeAlerts.Span

/-! ## Components -/

/-- A unit of time. -/
inductive TimeUnit where
  /-- Twenty-four hours. -/
  | day
  /-- Sixty minutes. -/
  | hour
  /-- Sixty seconds. -/
  | minute
  /-- One second. -/
  | second
  deriving Repr, DecidableEq

namespace TimeUnit

/-- The letter of a unit. -/
def letter : TimeUnit → Char
  | .day => 'd'
  | .hour => 'h'
  | .minute => 'm'
  | .second => 's'

/-- The seconds of a unit. -/
def seconds : TimeUnit → Nat
  | .day => 86400
  | .hour => 3600
  | .minute => 60
  | .second => 1

theorem letter_injective {u v : TimeUnit} (h : u.letter = v.letter) : u = v := by
  revert h
  cases u <;> cases v <;> decide

theorem letter_ne_blank (u : TimeUnit) : u.letter ≠ ' ' := by cases u <;> decide

end TimeUnit

/-- A number of units. -/
structure Component where
  /-- The number. -/
  count : Nat
  /-- The unit. -/
  unit : TimeUnit
  deriving Repr, DecidableEq

/-- The length of components together, in seconds. -/
def lengthOf : List Component → Nat
  | [] => 0
  | c :: cs => c.count * c.unit.seconds + lengthOf cs

/-- A component as a text: its number and the letter of its unit. -/
def Component.text (c : Component) : String := toString c.count ++ String.singleton c.unit.letter

/-- Components as a text, with blanks between them. -/
def listed (cs : List Component) : String := " ".intercalate (cs.map Component.text)

theorem Component.toList_text (c : Component) :
    c.text.toList = Nat.toDigits 10 c.count ++ [c.unit.letter] := by
  rw [text, String.toList_append, Nat.toString_eq_repr, Nat.toList_repr, String.toList_singleton]

theorem Component.text_injective {c d : Component} (h : c.text = d.text) : c = d := by
  have hlist : Nat.toDigits 10 c.count ++ [c.unit.letter] =
      Nat.toDigits 10 d.count ++ [d.unit.letter] := by
    rw [← toList_text, ← toList_text, h]
  obtain ⟨hdigits, hletter⟩ := List.append_inj' hlist rfl
  have hcount : c.count = d.count :=
    calc c.count
        = Nat.ofDigitChars 10 (Nat.toDigits 10 c.count) 0 := Nat.ofDigitChars_ten_toDigits.symm
      _ = Nat.ofDigitChars 10 (Nat.toDigits 10 d.count) 0 := by rw [hdigits]
      _ = d.count := Nat.ofDigitChars_ten_toDigits
  have hunit : c.unit = d.unit := TimeUnit.letter_injective (List.singleton_inj.1 hletter)
  cases c
  cases d
  simp only at hcount hunit
  rw [hcount, hunit]

theorem Component.blank_not_mem_text (c : Component) : ' ' ∉ c.text.toList := by
  rw [toList_text, List.mem_append, List.mem_singleton]
  rintro (hdigit | hletter)
  · exact absurd (Nat.isDigit_of_mem_toDigits (by decide) (by decide) hdigit) (by decide)
  · exact c.unit.letter_ne_blank hletter.symm

/-- The words of a text are those of its components. -/
theorem splitOn_listed {cs : List Component} (h : cs ≠ []) :
    (listed cs).toList.splitOn ' ' = cs.map fun c => c.text.toList := by
  have hblank : " ".toList = [' '] := rfl
  rw [listed, String.toList_intercalate, hblank, List.map_map]
  refine List.splitOn_intercalate ' ' (fun word hword => ?_) (mt List.map_eq_nil_iff.1 h)
  obtain ⟨c, -, rfl⟩ := List.mem_map.1 hword
  exact c.blank_not_mem_text

/-- **A text tells its components.** -/
theorem listed_injective {cs ds : List Component} (hcs : cs ≠ []) (hds : ds ≠ [])
    (h : listed cs = listed ds) : cs = ds := by
  have hwords : cs.map (fun c => c.text.toList) = ds.map fun c => c.text.toList := by
    rw [← splitOn_listed hcs, ← splitOn_listed hds, h]
  refine List.map_injective_iff.2 (fun c d hcd => ?_) hwords
  exact Component.text_injective (String.toList_inj.1 hcd)

/-! ## Clocks -/

/-- A length of time as a clock shows it, without a fraction of a second. -/
structure Clock where
  /-- The days. -/
  days : Nat
  /-- The hours beside the days. -/
  hours : Nat
  /-- The minutes beside the hours. -/
  minutes : Nat
  /-- The seconds beside the minutes. -/
  seconds : Nat
  /-- Hours do not make a day. -/
  hours_lt : hours < 24
  /-- Minutes do not make an hour. -/
  minutes_lt : minutes < 60
  /-- Seconds do not make a minute. -/
  seconds_lt : seconds < 60
  deriving Repr, DecidableEq

namespace Clock

/-- What a clock shows, largest unit first. -/
def components (k : Clock) : List Component :=
  [⟨k.days, .day⟩, ⟨k.hours, .hour⟩, ⟨k.minutes, .minute⟩, ⟨k.seconds, .second⟩]

/-- What a clock shows without what there is none of. -/
def shown (k : Clock) : List Component := k.components.filter fun c => c.count ≠ 0

theorem lengthOf_components (k : Clock) :
    lengthOf k.components = 86400 * k.days + 3600 * k.hours + 60 * k.minutes + k.seconds := by
  simp only [lengthOf, components, TimeUnit.seconds]
  omega

/-- A length of time is shown in one way. -/
theorem ext_lengthOf {k l : Clock} (h : lengthOf k.components = lengthOf l.components) : k = l := by
  rw [lengthOf_components, lengthOf_components] at h
  have hk := k.hours_lt
  have hk' := k.minutes_lt
  have hk'' := k.seconds_lt
  have hl := l.hours_lt
  have hl' := l.minutes_lt
  have hl'' := l.seconds_lt
  cases k
  cases l
  simp only at h hk hk' hk'' hl hl' hl''
  simp only [mk.injEq]
  omega

/-- The clock for a number of seconds. -/
def ofSeconds (n : Nat) : Clock where
  days := n / 86400
  hours := n % 86400 / 3600
  minutes := n % 3600 / 60
  seconds := n % 60
  hours_lt := by omega
  minutes_lt := by omega
  seconds_lt := by omega

theorem lengthOf_ofSeconds (n : Nat) : lengthOf (ofSeconds n).components = n := by
  rw [lengthOf_components]
  simp only [ofSeconds]
  omega

end Clock

/-- What there is none of has no length. -/
theorem lengthOf_filter (cs : List Component) :
    lengthOf (cs.filter fun c => c.count ≠ 0) = lengthOf cs := by
  induction cs with
  | nil => rfl
  | cons c cs ih =>
      rw [lengthOf, List.filter_cons]
      by_cases hcount : c.count = 0
      · rw [if_neg (by simp [hcount]), ih, hcount, Nat.zero_mul, Nat.zero_add]
      · rw [if_pos (by simp [hcount]), lengthOf, ih]

/-! ## Texts -/

/-- The components that are written for a number of seconds: no seconds if there is nothing else to
show. -/
def written (n : Nat) : List Component :=
  if n = 0 then [⟨0, .second⟩] else (Clock.ofSeconds n).shown

/-- **What is written tells the seconds.** -/
theorem lengthOf_written (n : Nat) : lengthOf (written n) = n := by
  by_cases hn : n = 0
  · rw [written, if_pos hn, hn]
    rfl
  · rw [written, if_neg hn, Clock.shown, lengthOf_filter, Clock.lengthOf_ofSeconds]

theorem written_ne_nil (n : Nat) : written n ≠ [] := by
  intro hnil
  have hn : n = 0 := by rw [← lengthOf_written n, hnil]; rfl
  rw [written, if_pos hn] at hnil
  cases hnil

theorem part_eq (c : Component) :
    part c.count (String.singleton c.unit.letter) =
      ([c].filter fun c => c.count ≠ 0).map Component.text := by
  rw [part, List.filter_cons]
  by_cases hcount : c.count = 0
  · rw [if_pos hcount, if_neg (by simp [hcount])]
    rfl
  · rw [if_neg hcount, if_pos (by simp [hcount])]
    rfl

theorem secondsText_eq (n : Nat) : secondsText n = listed (written n) := by
  by_cases hn : n = 0
  · rw [secondsText, if_pos hn, written, if_pos hn]
    rfl
  · have hsplit : (Clock.ofSeconds n).components =
        [⟨n / 86400, .day⟩] ++ [⟨n % 86400 / 3600, .hour⟩] ++ [⟨n % 3600 / 60, .minute⟩] ++
          [⟨n % 60, .second⟩] := rfl
    rw [secondsText, if_neg hn, written, if_neg hn, listed, Clock.shown, hsplit]
    simp only [List.filter_append, List.map_append, ← part_eq]
    rfl

theorem text_eq_listed (d : Span) : d.text = listed (written d.seconds) := secondsText_eq d.seconds

/-- **A text tells the whole seconds of a length of time.** -/
theorem text_eq_text_iff {d e : Span} : d.text = e.text ↔ d.seconds = e.seconds := by
  constructor
  · intro htext
    rw [text_eq_listed, text_eq_listed] at htext
    have hwritten := listed_injective (written_ne_nil _) (written_ne_nil _) htext
    rw [← lengthOf_written d.seconds, hwritten, lengthOf_written]
  · intro hseconds
    rw [text, text, hseconds]

/-- **Lengths of time are told unambiguously.**  A text shows the whole seconds of a length of time,
none if it is negative, as a clock does: days, hours, minutes and seconds with those left out that
there are none of, and `0s` if that is all of them.  Two lengths have one text if and only if they
have the same whole seconds. -/
theorem duration_text_unambiguous :
    (∀ d : Span, (d.seconds : Int) = max (d.micros.tdiv 1000000) 0 ∧
      (d.seconds = 0 → d.text = "0s") ∧
      ∃! k : Clock, lengthOf k.components = d.seconds ∧
        (d.seconds ≠ 0 → d.text = listed k.shown)) ∧
    ∀ d e : Span, d.text = e.text ↔ d.seconds = e.seconds := by
  refine ⟨fun d => ⟨Int.toNat_eq_max _, fun hzero => ?_, Clock.ofSeconds d.seconds,
    ⟨Clock.lengthOf_ofSeconds _, fun hsome => ?_⟩, fun k hk => ?_⟩, fun d e => text_eq_text_iff⟩
  · rw [text, secondsText, if_pos hzero]
  · rw [text_eq_listed, written, if_neg hsome]
  · exact Clock.ext_lengthOf (hk.1.trans (Clock.lengthOf_ofSeconds _).symm)

example : (⟨90061999999⟩ : Span).text = "1d 1h 1m 1s" := by decide

end NodeAlerts.Span
