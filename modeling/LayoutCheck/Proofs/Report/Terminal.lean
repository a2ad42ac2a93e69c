import LayoutCheck.Proofs.Text.Utf8
import LayoutCheck.Report
import Mathlib.Data.List.Basic

/-! # Streams and terminals

A stream with little room receives the beginning of what an unlimited one receives: a write that
fails leaves no room, so later emissions, tried anew, add nothing to it. Every coloured piece of a
report sets all of its style and takes it back, so between two pieces the terminal is plain, and
each character is shown in the style of its own tone. -/

namespace LayoutCheck

namespace Stream

/-- One attempt at a piece: the stream takes what fits and gives back what is left, or fails
when nothing of it fits. -/
def attempt (s : Stream) (bs : Bytes) : Option (Stream × Bytes) :=
  match s.room with
  | none => some ({ s with received := s.received ++ bs }, [])
  | some n =>
    if n = 0 ∧ bs ≠ [] then none
    else
      some ({ s with room := some (n - bs.length), received := s.received ++ bs.take n },
        bs.drop n)

theorem attempt_unlimited {s : Stream} (h : s.room = none) (bs : Bytes) :
    s.attempt bs = some ({ s with received := s.received ++ bs }, []) := by
  rw [attempt, h]

theorem attempt_full {s : Stream} (h : s.room = some 0) {bs : Bytes} (hbs : bs ≠ []) :
    s.attempt bs = none := by
  rw [attempt, h]
  exact if_pos ⟨rfl, hbs⟩

theorem attempt_limited {s : Stream} {n : Nat} (h : s.room = some n) (hn : n ≠ 0) (bs : Bytes) :
    s.attempt bs =
      some ({ s with room := some (n - bs.length), received := s.received ++ bs.take n },
        bs.drop n) := by
  rw [attempt, h]
  exact if_neg fun h0 => hn h0.1

theorem length_of_attempt {s s' : Stream} {bs rest : Bytes} (hbs : bs ≠ [])
    (h : s.attempt bs = some (s', rest)) : rest.length < bs.length := by
  have hpos : 0 < bs.length := List.length_pos_iff.mpr hbs
  cases hroom : s.room with
  | none =>
    rw [attempt_unlimited hroom] at h
    obtain ⟨-, rfl⟩ := Prod.mk.inj (Option.some.inj h)
    exact hpos
  | some n =>
    by_cases hn : n = 0
    · rw [attempt_full (hn ▸ hroom) hbs] at h
      cases h
    · rw [attempt_limited hroom hn] at h
      obtain ⟨-, rfl⟩ := Prod.mk.inj (Option.some.inj h)
      rw [List.length_drop]
      omega

def attempts (s : Stream) (bs : Bytes) : Stream × Bool :=
  if _hbs : bs = [] then (s, true)
  else
    match _h : s.attempt bs with
    | none => (s, false)
    | some (s', rest) => s'.attempts rest
termination_by bs.length
decreasing_by exact length_of_attempt _hbs _h

theorem attempts_nil (s : Stream) : s.attempts [] = (s, true) := by
  rw [attempts, dif_pos rfl]

theorem attempts_of_fail {s : Stream} {bs : Bytes} (hbs : bs ≠ []) (h : s.attempt bs = none) :
    s.attempts bs = (s, false) := by
  rw [attempts, dif_neg hbs]
  split
  · rfl
  · next h' => rw [h] at h'; cases h'

theorem attempts_of_some {s s' : Stream} {bs rest : Bytes} (hbs : bs ≠ [])
    (h : s.attempt bs = some (s', rest)) : s.attempts bs = s'.attempts rest := by
  rw [attempts, dif_neg hbs]
  split
  · next h' => rw [h] at h'; cases h'
  · next h' =>
    rw [h] at h'
    obtain ⟨rfl, rfl⟩ := Prod.mk.inj (Option.some.inj h')
    rfl

theorem write_unlimited {s : Stream} (h : s.room = none) (bs : Bytes) :
    s.write bs = ({ s with received := s.received ++ bs }, true) := by
  rw [write, h]

theorem write_limited {s : Stream} {n : Nat} (h : s.room = some n) (bs : Bytes) :
    s.write bs =
      ({ s with room := some (n - bs.length), received := s.received ++ bs.take n },
        decide (bs.length ≤ n)) := by
  rw [write, h]

theorem write_eq_attempts (s : Stream) (bs : Bytes) : s.write bs = s.attempts bs := by
  obtain ⟨room, received, failed⟩ := s
  by_cases hbs : bs = []
  · subst hbs
    rw [attempts_nil]
    cases room <;> simp [write]
  · cases room with
    | none => rw [attempts_of_some hbs (attempt_unlimited rfl bs), attempts_nil,
        write_unlimited rfl]
    | some n =>
      rw [write_limited rfl]
      by_cases hn : n = 0
      · subst hn
        rw [attempts_of_fail hbs (attempt_full rfl hbs)]
        simp [hbs]
      · rw [attempts_of_some hbs (attempt_limited rfl hn bs)]
        by_cases hfit : bs.length ≤ n
        · rw [List.drop_eq_nil_of_le hfit, attempts_nil]
          simp [hfit]
        · -- what is left meets a stream without room
          have hleft : bs.drop n ≠ [] := by simpa using hfit
          have hroom : n - bs.length = 0 := by omega
          rw [attempts_of_fail hleft (attempt_full (congrArg some hroom) hleft)]
          simp [hfit]

def output (colored : Bool) (es : List Emission) : Bytes :=
  es.flatMap fun e => (e.writes colored).flatten

theorem writeAll_unlimited {s : Stream} (h : s.room = none) (pieces : List Bytes) :
    s.writeAll pieces = { s with received := s.received ++ pieces.flatten } := by
  induction pieces generalizing s with
  | nil => simp [writeAll]
  | cons piece rest ih =>
    have hrest := ih (s := { s with received := s.received ++ piece }) h
    simp only [writeAll, write_unlimited h]
    rw [hrest]
    simp

theorem emitAll_unlimited {s : Stream} (h : s.room = none) (colored : Bool)
    (es : List Emission) :
    s.emitAll colored es = { s with received := s.received ++ output colored es } := by
  induction es generalizing s with
  | nil => simp [emitAll, output]
  | cons e es ih =>
    have he : s.emit colored e = { s with received := s.received ++ (e.writes colored).flatten } :=
      writeAll_unlimited h _
    calc s.emitAll colored (e :: es)
        = (s.emit colored e).emitAll colored es := rfl
      _ = { s with
            received := s.received ++ (e.writes colored).flatten ++ output colored es } := by
          rw [ih (by rw [he]; exact h), he]
      _ = { s with received := s.received ++ output colored (e :: es) } := by
          simp [output]

/-- How a stream stands that had room for `limit` bytes and was offered `bytes`. -/
structure Offered (limit : Nat) (bytes : Bytes) (s : Stream) : Prop where
  room : s.room = some (limit - bytes.length)
  received : s.received = bytes.take limit
  failed : s.failed = true ↔ limit < bytes.length

theorem offered_start (limit : Nat) : Offered limit [] (withRoom (some limit)) := by
  constructor
  · rfl
  · exact List.take_nil.symm
  · simp [withRoom]

theorem Offered.take_append {limit : Nat} {bytes : Bytes} {s : Stream} (h : Offered limit bytes s)
    (bs : Bytes) :
    s.received ++ bs.take (limit - bytes.length) = (bytes ++ bs).take limit := by
  rw [h.received, List.take_append]

theorem Offered.writeAll {limit : Nat} {bytes : Bytes} {s : Stream} (h : Offered limit bytes s)
    (pieces : List Bytes) : Offered limit (bytes ++ pieces.flatten) (s.writeAll pieces) := by
  induction pieces generalizing bytes s with
  | nil => simpa [Stream.writeAll] using h
  | cons piece rest ih =>
    have hfailed := h.failed
    simp only [Stream.writeAll, write_limited h.room, h.take_append piece]
    rw [List.flatten_cons, ← List.append_assoc]
    by_cases hfit : piece.length ≤ limit - bytes.length
    · simp only [hfit, decide_true]
      apply ih
      constructor
      · simp only [List.length_append, Option.some.injEq]
        omega
      · rfl
      · rw [List.length_append]
        change s.failed = true ↔ _
        rw [hfailed]
        omega
    · simp only [hfit, decide_false]
      have hover : limit < (bytes ++ piece).length := by
        rw [List.length_append]
        omega
      constructor
      · simp only [List.length_append, Option.some.injEq] at hover ⊢
        omega
      · rw [List.take_append_of_le_length (Nat.le_of_lt hover)]
      · simp only [true_iff]
        rw [List.length_append]
        omega

theorem Offered.emitAll {limit : Nat} {bytes : Bytes} {s : Stream} (h : Offered limit bytes s)
    (colored : Bool) (es : List Emission) :
    Offered limit (bytes ++ output colored es) (s.emitAll colored es) := by
  induction es generalizing bytes s with
  | nil => simpa [Stream.emitAll, output] using h
  | cons e es ih =>
    have hnext := ih (h.writeAll (e.writes colored))
    rw [List.append_assoc] at hnext
    exact hnext

theorem output_plain (es : List Emission) :
    output false es = (Emission.plainText es).utf8 := by
  simp [output, Emission.plainText, Emission.writes, Text.utf8, List.flatMap_assoc]

/-- A stream with room for `limit` bytes receives the first `limit` bytes of the whole report,
and fails exactly if there are more. Without colours the whole report is its text. -/
theorem limited_stream_truncates (colored : Bool) (limit : Nat) (es : List Emission) :
    let whole := (withRoom none).emitAll colored es
    let cut := (withRoom (some limit)).emitAll colored es
    whole.failed = false ∧
      cut.received = whole.received.take (min limit whole.received.length) ∧
      (cut.failed = true ↔ limit < whole.received.length) ∧
      ((withRoom none).emitAll false es).received = (Emission.plainText es).utf8 := by
  intro whole cut
  have hwhole (c : Bool) : (withRoom none).emitAll c es = ⟨none, output c es, false⟩ :=
    emitAll_unlimited rfl c es
  have hreceived : whole.received = output colored es := congrArg Stream.received (hwhole colored)
  have hcut : Offered limit (output colored es) cut := (offered_start limit).emitAll colored es
  refine ⟨congrArg Stream.failed (hwhole colored), ?_, ?_, ?_⟩
  · rw [hreceived, hcut.received, List.take_eq_take_min]
  · rw [hreceived]
    exact hcut.failed
  · rw [hwhole false]
    exact output_plain es

end Stream

def escapeOpener : Char := '\x1b'

/-- The style that a control code leaves behind; codes of other effects change nothing. -/
def Style.select (s : Style) (code : Text) : Style :=
  if code = ['0'] then .plain
  else if code = ['1'] then { s with bold := true }
  else if code = ['3', '1'] then { s with foreground := some .red }
  else if code = ['3', '2'] then { s with foreground := some .green }
  else if code = ['3', '6'] then { s with foreground := some .cyan }
  else s

inductive Terminal.Reading where
  | shown
  | introducer
  | code (soFar : Text)
  deriving DecidableEq, Repr

def isParameter (c : Char) : Bool := c.isDigit || c == ';'

structure Terminal where
  style : Style
  reading : Terminal.Reading
  screen : List (Char × Style)
  deriving DecidableEq, Repr

namespace Terminal

def start : Terminal := ⟨.plain, .shown, []⟩

/-- Only a code that ends in `m` is about the style. -/
def feed (t : Terminal) (c : Char) : Terminal :=
  match t.reading with
  | .shown =>
    if c = escapeOpener then { t with reading := .introducer }
    else { t with screen := t.screen ++ [(c, t.style)] }
  | .introducer => { t with reading := if c = '[' then .code [] else .shown }
  | .code soFar =>
    if isParameter c then { t with reading := .code (soFar ++ [c]) }
    else if c = 'm' then { t with reading := .shown, style := t.style.select soFar }
    else { t with reading := .shown }

def feedAll (t : Terminal) (text : Text) : Terminal := text.foldl feed t

def receive (t : Terminal) (bs : Bytes) : Terminal := t.feedAll (Utf8.decodeLossy bs)

@[simp] theorem feedAll_nil (t : Terminal) : t.feedAll [] = t := rfl

@[simp] theorem feedAll_cons (t : Terminal) (c : Char) (text : Text) :
    t.feedAll (c :: text) = (t.feed c).feedAll text := rfl

theorem feedAll_append (t : Terminal) (s u : Text) :
    t.feedAll (s ++ u) = (t.feedAll s).feedAll u := List.foldl_append

end Terminal

def Style.apply (s : Style) (text : Text) : List (Char × Style) := text.map fun c => (c, s)

namespace Terminal

theorem feedAll_text {text : Text} (h : escapeOpener ∉ text) (style : Style)
    (screen : List (Char × Style)) :
    (Terminal.mk style .shown screen).feedAll text =
      ⟨style, .shown, screen ++ style.apply text⟩ := by
  induction text generalizing screen with
  | nil => simp [Style.apply]
  | cons c text ih =>
    rw [List.mem_cons, not_or] at h
    have hc : (Terminal.mk style .shown screen).feed c =
        ⟨style, .shown, screen ++ [(c, style)]⟩ := if_neg (Ne.symm h.1)
    rw [feedAll_cons, hc, ih h.2]
    simp [Style.apply]

theorem feedAll_parameters {code : Text} (h : code.all isParameter = true) (style : Style)
    (soFar : Text) (screen : List (Char × Style)) :
    (Terminal.mk style (.code soFar) screen).feedAll code =
      ⟨style, .code (soFar ++ code), screen⟩ := by
  induction code generalizing soFar with
  | nil => simp
  | cons c code ih =>
    obtain ⟨hparameter, hcode⟩ := Bool.and_eq_true_iff.mp h
    have hc : (Terminal.mk style (.code soFar) screen).feed c =
        ⟨style, .code (soFar ++ [c]), screen⟩ := if_pos hparameter
    rw [feedAll_cons, hc, ih hcode]
    simp

theorem feedAll_escape {code : Text} (h : code.all isParameter = true) (style : Style)
    (screen : List (Char × Style)) :
    (Terminal.mk style .shown screen).feedAll (escape code) =
      ⟨style.select code, .shown, screen⟩ := by
  have hopen : (Terminal.mk style .shown screen).feedAll ['\x1b', '['] =
      ⟨style, .code [], screen⟩ := rfl
  have hsplit : escape code = ['\x1b', '['] ++ (code ++ ['m']) := rfl
  rw [hsplit, feedAll_append, hopen, feedAll_append, feedAll_parameters h]
  rfl

theorem feedAll_color (c : Color) (style : Style) (screen : List (Char × Style)) :
    (Terminal.mk style .shown screen).feedAll (escape c.code) =
      ⟨{ style with foreground := some c }, .shown, screen⟩ := by
  rw [feedAll_escape (by cases c <;> decide)]
  cases c <;> rfl

theorem feedAll_escapes (s style : Style) (screen : List (Char × Style)) :
    (Terminal.mk style .shown screen).feedAll s.escapes.flatten = ⟨s, .shown, screen⟩ := by
  obtain ⟨bold, foreground⟩ := s
  have hreset : (Terminal.mk style .shown screen).feedAll resetEscape = ⟨.plain, .shown, screen⟩ :=
    feedAll_escape (by decide) style screen
  have hbold (style : Style) : (Terminal.mk style .shown screen).feedAll (escape ['1']) =
      ⟨{ style with bold := true }, .shown, screen⟩ :=
    feedAll_escape (by decide) style screen
  cases bold <;> cases foreground <;>
    simp [Style.escapes, feedAll_append, hreset, hbold, feedAll_color, Style.plain]

end Terminal

namespace Emission

def colored (e : Emission) : Text :=
  if e.tone = .plain then e.text
  else e.tone.style.escapes.flatten ++ (e.text ++ resetEscape)

theorem flatten_writes (e : Emission) : (e.writes true).flatten = e.colored.utf8 := by
  unfold writes colored
  by_cases h : e.tone = .plain
  · simp [h]
  · have htone : (true && e.tone != .plain) = true := by simpa using h
    rw [if_pos htone, if_neg h, ← Text.utf8_flatten]
    simp

theorem output_colored (es : List Emission) :
    Stream.output true es = Text.utf8 (es.flatMap colored) := by
  induction es with
  | nil => rfl
  | cons e es ih =>
    have hcons : Stream.output true (e :: es) =
        (e.writes true).flatten ++ Stream.output true es := rfl
    rw [hcons, ih, flatten_writes]
    exact List.flatMap_append.symm

end Emission

namespace Terminal

/-- Between two pieces of a report: nothing is begun, and the style is plain. -/
def atRest (screen : List (Char × Style)) : Terminal := ⟨.plain, .shown, screen⟩

theorem feedAll_colored {e : Emission} (h : escapeOpener ∉ e.text) (screen : List (Char × Style)) :
    (atRest screen).feedAll e.colored = atRest (screen ++ e.tone.style.apply e.text) := by
  unfold Emission.colored atRest
  by_cases hplain : e.tone = .plain
  · rw [if_pos hplain, feedAll_text h, hplain]
    rfl
  · have hreset : (Terminal.mk e.tone.style .shown (screen ++ e.tone.style.apply e.text)).feedAll
        resetEscape = ⟨.plain, .shown, screen ++ e.tone.style.apply e.text⟩ :=
      feedAll_escape (by decide) _ _
    rw [if_neg hplain, feedAll_append, feedAll_escapes, feedAll_append, feedAll_text h]
    exact hreset

theorem feedAll_report {es : List Emission} (h : ∀ e ∈ es, escapeOpener ∉ e.text)
    (screen : List (Char × Style)) :
    (atRest screen).feedAll (es.flatMap Emission.colored) =
      atRest (screen ++ es.flatMap fun e => e.tone.style.apply e.text) := by
  induction es generalizing screen with
  | nil => simp
  | cons e es ih =>
    rw [List.flatMap_cons, feedAll_append, feedAll_colored (h e List.mem_cons_self),
      ih fun d hd => h d (List.mem_cons_of_mem _ hd), List.flatMap_cons, List.append_assoc]

end Terminal

/-- A text less its escape sequences, each of which ends at the next `m`. -/
def withoutEscapes : Text → Text
  | [] => []
  | c :: r =>
    if c = escapeOpener then withoutEscapes ((r.dropWhile (· != 'm')).drop 1)
    else c :: withoutEscapes r
termination_by t => t.length
decreasing_by
  · have hle := (List.dropWhile_suffix (· != 'm') (l := r)).length_le
    rw [List.length_drop, List.length_cons]
    omega
  · exact Nat.lt_succ_self _

theorem withoutEscapes_text {text : Text} (h : escapeOpener ∉ text) (rest : Text) :
    withoutEscapes (text ++ rest) = text ++ withoutEscapes rest := by
  induction text with
  | nil => rfl
  | cons c text ih =>
    rw [List.mem_cons, not_or] at h
    rw [List.cons_append, withoutEscapes, if_neg (Ne.symm h.1), ih h.2]
    rfl

theorem withoutEscapes_escape {code : Text} (h : 'm' ∉ code) (rest : Text) :
    withoutEscapes (escape code ++ rest) = withoutEscapes rest := by
  have hcode : ∀ c ∈ '[' :: code, (c != 'm') = true := by
    intro c hc
    rcases List.mem_cons.mp hc with rfl | hc
    · decide
    · exact bne_iff_ne.mpr fun he => h (he ▸ hc)
  have hopen : escape code ++ rest = escapeOpener :: ('[' :: code ++ 'm' :: rest) := by
    simp [escape, escapeOpener]
  rw [hopen, withoutEscapes, if_pos rfl, List.dropWhile_append_of_pos hcode]
  rfl

theorem exists_code_of_mem_escapes {s : Style} {piece : Text} (h : piece ∈ s.escapes) :
    ∃ code, piece = escape code ∧ 'm' ∉ code := by
  obtain ⟨bold, foreground⟩ := s
  rcases List.mem_cons.mp h with rfl | h
  · exact ⟨['0'], rfl, by decide⟩
  rcases List.mem_append.mp h with h | h
  · cases bold with
    | false => cases h
    | true => exact ⟨['1'], List.mem_singleton.mp h, by decide⟩
  · obtain ⟨c, -, rfl⟩ := Option.map_eq_some_iff.mp (Option.mem_toList.mp h)
    exact ⟨c.code, rfl, by cases c <;> decide⟩

theorem withoutEscapes_escapes (s : Style) (rest : Text) :
    withoutEscapes (s.escapes.flatten ++ rest) = withoutEscapes rest := by
  have hall : ∀ piece ∈ s.escapes, ∃ code, piece = escape code ∧ 'm' ∉ code :=
    fun _ => exists_code_of_mem_escapes
  generalize s.escapes = pieces at hall
  induction pieces with
  | nil => rfl
  | cons piece pieces ih =>
    obtain ⟨code, rfl, hcode⟩ := hall piece List.mem_cons_self
    rw [List.flatten_cons, List.append_assoc, withoutEscapes_escape hcode]
    exact ih fun p hp => hall p (List.mem_cons_of_mem _ hp)

theorem withoutEscapes_colored {e : Emission} (h : escapeOpener ∉ e.text) (rest : Text) :
    withoutEscapes (e.colored ++ rest) = e.text ++ withoutEscapes rest := by
  unfold Emission.colored
  by_cases hplain : e.tone = .plain
  · rw [if_pos hplain, withoutEscapes_text h]
  · rw [if_neg hplain, List.append_assoc, withoutEscapes_escapes, List.append_assoc,
      withoutEscapes_text h]
    have hreset : withoutEscapes (resetEscape ++ rest) = withoutEscapes rest :=
      withoutEscapes_escape (by decide) rest
    rw [hreset]

theorem withoutEscapes_report {es : List Emission} (h : ∀ e ∈ es, escapeOpener ∉ e.text) :
    withoutEscapes (es.flatMap Emission.colored) = Emission.plainText es := by
  induction es with
  | nil => rw [List.flatMap_nil, withoutEscapes]; rfl
  | cons e es ih =>
    rw [List.flatMap_cons, withoutEscapes_colored (h e List.mem_cons_self),
      ih fun d hd => h d (List.mem_cons_of_mem _ hd)]
    rfl

/-- One call on a sink: a piece of text, or a piece with a newline behind it. -/
inductive Call where
  | emit (text : Text) (tone : Tone)
  | line (text : Text) (tone : Tone)
  deriving DecidableEq, Repr

namespace Call

def text : Call → Text
  | emit text _ => text
  | line text _ => text

def emissions : Call → List Emission
  | emit text tone => [⟨text, tone⟩]
  | line text tone => Emission.line text tone

def appearance : Call → List (Char × Style)
  | emit text tone => tone.style.apply text
  | line text tone => tone.style.apply text ++ [('\n', .plain)]

theorem flatMap_emissions (c : Call) :
    (c.emissions.flatMap fun e => e.tone.style.apply e.text) = c.appearance := by
  cases c <;> simp [emissions, appearance, Emission.line, Emission.say, Style.apply, Tone.style]

theorem opener_not_mem {c : Call} (h : escapeOpener ∉ c.text) {e : Emission}
    (he : e ∈ c.emissions) : escapeOpener ∉ e.text := by
  cases c with
  | emit text tone =>
    obtain rfl := List.mem_singleton.mp he
    exact h
  | line text tone =>
    rcases List.mem_cons.mp he with rfl | he
    · exact h
    · obtain rfl := List.mem_singleton.mp he
      decide

end Call

/-- On a terminal every character of a report has the style of the call that it came with, and at
the end the terminal is plain and waits for nothing. Less its escapes the report is its text. -/
theorem colors_never_leak {calls : List Call} (h : ∀ c ∈ calls, escapeOpener ∉ c.text) :
    let es := calls.flatMap Call.emissions
    let received := ((Stream.withRoom none).emitAll true es).received
    Terminal.start.receive received = ⟨.plain, .shown, calls.flatMap Call.appearance⟩ ∧
      withoutEscapes (Utf8.decodeLossy received) = Emission.plainText es := by
  intro es received
  have hes : ∀ e ∈ es, escapeOpener ∉ e.text := by
    intro e he
    obtain ⟨c, hc, he⟩ := List.mem_flatMap.mp he
    exact Call.opener_not_mem (h c hc) he
  have hreceived : received = Text.utf8 (es.flatMap Emission.colored) := by
    have hwhole := Stream.emitAll_unlimited (s := Stream.withRoom none) rfl true es
    rw [← Emission.output_colored]
    exact congrArg Stream.received hwhole
  have hdecoded : Utf8.decodeLossy received = es.flatMap Emission.colored := by
    rw [hreceived, Utf8.decodeLossy_utf8]
  have hlooks : (es.flatMap fun e => e.tone.style.apply e.text) =
      calls.flatMap Call.appearance := by
    rw [List.flatMap_assoc]
    exact List.flatMap_congr fun c _ => c.flatMap_emissions
  constructor
  · rw [Terminal.receive, hdecoded, ← hlooks]
    exact Terminal.feedAll_report hes []
  · rw [hdecoded]
    exact withoutEscapes_report hes

theorem colors_never_leak_after_success :
    let calls := [Call.line "ok".toList .success, .emit ['é'] .plain, .emit ['x'] .removed]
    (∀ c ∈ calls, escapeOpener ∉ c.text) ∧
      (Terminal.start.receive
        ((Stream.withRoom none).emitAll true (calls.flatMap Call.emissions)).received).screen =
        [('o', ⟨true, some .green⟩), ('k', ⟨true, some .green⟩), ('\n', .plain), ('é', .plain),
          ('x', ⟨false, some .red⟩)] := by
  intro calls
  have hcalls : ∀ c ∈ calls, escapeOpener ∉ c.text := by decide
  exact ⟨hcalls, congrArg Terminal.screen (colors_never_leak hcalls).1⟩

end LayoutCheck
