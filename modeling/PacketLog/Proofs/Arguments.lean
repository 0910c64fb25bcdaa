/-
Arguments in any order and spelling.

A list of arguments about the path, the style of output and the two flags comes in parts: the path,
a flag, or the option with its value.  Each part adds what it says to the draft, wherever it stands
and however it is spelt.  Drafts are compared by what becomes of them when their pending value is
examined, since it depends on the order of the parts which value that is.

* `Style.parse_eq_ok_iff` — which texts name a style;
* `Draft.Shows` — a draft holds what the parts say so far;
* `reaches_part`, `reaches_parts` — so it does after one part more, and after any parts;
* `parse_arguments` — what the arguments are read as.
-/
import PacketLog.CommandLine
import PacketLog.Unicode.Lowercase.Ascii

namespace PacketLog

/-! ### Names of styles -/

namespace Style

/-- The names of a style, in small letters. -/
def names : Style → List String
  | .text => ["text", "txt"]
  | .json => ["json", "jsonl"]

/-- A text is matched with the names as far as ASCII has small letters. -/
theorem parse_eq (text : String) :
    parse text =
      if text.toLower ∈ names .text then .ok .text
      else if text.toLower ∈ names .json then .ok .json
      else .error ⟨text⟩ := by
  -- Outside ASCII only the sign of the kelvin has a small letter in it, a letter of no name.
  have hlower (name : String) (h : ∀ c ∈ name.toList, c.toNat < 0x80 ∧ c ≠ 'k') :
      Unicode.lowercase text = name ↔ text.toLower = name := Unicode.lowercase_eq_iff h
  simp only [parse, names, List.mem_pair, hlower "text" (by simp), hlower "txt" (by simp),
    hlower "json" (by simp), hlower "jsonl" (by simp)]

/-- **The texts that name a style** are its names in capitals or small letters, and no others. -/
theorem parse_eq_ok_iff {text : String} {style : Style} :
    parse text = .ok style ↔ text.toLower ∈ style.names := by
  have hapart : ∀ name ∈ names .text, name ∉ names .json := by decide
  rw [parse_eq]
  split_ifs with htext hjson
  · cases style with
    | text => simp [htext]
    | json => simp [hapart _ htext]
  · cases style with
    | text => simp [htext]
    | json => simp [hjson]
  · cases style with
    | text => simp [htext]
    | json => simp [hjson]

theorem parse_eq_error {text : String} (h : ∀ style : Style, text.toLower ∉ style.names) :
    parse text = .error ⟨text⟩ := by
  rw [parse_eq, if_neg (h .text), if_neg (h .json)]

/-- A text that names a style is in ASCII. -/
theorem ascii_of_mem_names {text : String} {style : Style} (h : text.toLower ∈ style.names) :
    ∀ c ∈ text.toList, c.toNat < 0x80 := by
  have hnames : ∀ name ∈ style.names, ∀ c ∈ name.toList, c.toNat < 0x80 := by
    cases style <;> simp [names]
  exact Unicode.ascii_of_toLower (hnames _ h)

end Style

namespace CommandLine

/-! ### Parts -/

/-- What a part of the arguments is about. -/
inductive Topic where
  | path
  | style
  | summary
  | verbose
  deriving DecidableEq

/-- The flag about a topic. -/
def Topic.flag? : Topic → Option Flag
  | .path | .style => none
  | .summary => some .summary
  | .verbose => some .verbose

/-- An argument that stands alone, or an option with its value. -/
inductive Part where
  | path
  | shortStyle
  | longStyle
  /-- The option with its value in the same argument. -/
  | joinedStyle
  | shortSummary
  | longSummary
  | shortVerbose
  | longVerbose
  deriving DecidableEq

def Part.topic : Part → Topic
  | .path => .path
  | .shortStyle | .longStyle | .joinedStyle => .style
  | .shortSummary | .longSummary => .summary
  | .shortVerbose | .longVerbose => .verbose

/-- The arguments of a part, for a path and a value of the option. -/
def Part.arguments (path value : String) : Part → List String
  | .path => [path]
  | .shortStyle => ["-f", value]
  | .longStyle => ["--format", value]
  | .joinedStyle => ["--format=" ++ value]
  | .shortSummary => ["-s"]
  | .longSummary => ["--summary"]
  | .shortVerbose => ["-v"]
  | .longVerbose => ["--verbose"]

/-- A text that is not empty and does not look like an option. -/
def IsPlain (s : String) : Prop := s ≠ "" ∧ s.toList.head? ≠ some '-'

/-! ### How an argument is taken -/

namespace Draft

variable {d : Draft}

theorem take_plain {s : String} (hs : IsPlain s) (hclosed : d.closed = false) :
    d.take s = d.takePlain s := by
  -- An option would begin with a hyphen.
  have hhead {cs : List Char} : s.toList ≠ '-' :: cs := by
    intro h
    exact hs.2 (by rw [h]; rfl)
  rw [take, hclosed, if_neg Bool.false_ne_true]
  split
  · exact absurd ‹_› hhead
  · exact absurd ‹_› hhead
  · exact absurd ‹_› hhead
  · rfl

theorem take_shortFlag {s : String} (flag : Flag) (hs : s.toList = ['-', flag.letter])
    (hclosed : d.closed = false) : d.take s = d.raise flag := by
  -- Behind the letter of the flag nothing is left of the argument.
  have htake : d.take s = (d.raise flag).bind (·.takeShort []) := by
    rw [take, hclosed, hs]
    cases flag <;> rfl
  rw [htake]
  cases d.raise flag <;> rfl

theorem take_longFlag {s : String} (flag : Flag) (hs : s.toList = '-' :: '-' :: flag.name.toList)
    (hclosed : d.closed = false) : d.take s = d.raise flag := by
  rw [take, hclosed, hs]
  cases flag <;> rfl

theorem take_shortStyle (hclosed : d.closed = false) : d.take "-f" = d.takeStyle none := by
  rw [take, hclosed]
  rfl

theorem take_longStyle (hclosed : d.closed = false) : d.take "--format" = d.takeStyle none := by
  rw [take, hclosed]
  rfl

theorem take_joinedStyle (value : String) (hclosed : d.closed = false) :
    d.take ("--format=" ++ value) = d.takeStyle (some value) := by
  have hchars : ("--format=" ++ value).toList =
      '-' :: '-' :: ("format".toList ++ '=' :: value.toList) := by
    rw [String.toList_append]
    rfl
  rw [take, hclosed, hchars]
  show d.takeLong (String.ofList "format".toList) (some (String.ofList value.toList)) = _
  rw [String.ofList_toList, String.ofList_toList]
  rfl

theorem finish_eq {settled : Draft} {path : String} (hsettle : d.settle = .ok settled)
    (hpath : settled.path = some path) :
    d.finish = .ok ⟨path, settled.style.getD .usual, settled.summary, settled.verbose⟩ := by
  simp only [finish, hsettle, bind, Except.bind, hpath]

/-- The first path is laid aside, once a style before it is examined. -/
theorem takePath_eq {value : String} (hpath : d.path = none)
    (hpending : d.pending = .nothing ∨ ∃ v, d.pending = .style (some v)) :
    d.takePath value = d.settle.map fun d => { d with pending := .path value } := by
  obtain ⟨path, style, summary, verbose, pending, closed⟩ := d
  obtain rfl : path = none := hpath
  rcases hpending with hpending | ⟨v, hpending⟩
  · obtain rfl : pending = .nothing := hpending
    rfl
  · obtain rfl : pending = .style (some v) := hpending
    show (settle _ >>= fun d => .ok { d with pending := .path value }) = _
    cases settle _ <;> rfl

end Draft

/-! ### What the parts say -/

/-- The style that the parts ask for, if the option is one of them. -/
def styleAsked (value : String) (topics : List Topic) : Except Reply (Option Style) :=
  if .style ∈ topics then
    match Style.parse value with
    | .ok style => .ok (some style)
    | .error unknown => .error (.misuse (.badStyle unknown))
  else .ok none

/-- The draft that holds what the parts say, with nothing left to examine. -/
def Draft.asked (path : String) (topics : List Topic) (style : Option Style) : Draft where
  path := if .path ∈ topics then some path else none
  style := style
  summary := .summary ∈ topics
  verbose := .verbose ∈ topics
  pending := .nothing
  closed := false

/-- A draft holds what the parts say: examining its pending value gives the draft that they ask
for, or refuses the style that they ask for. -/
structure Draft.Shows (path value : String) (topics : List Topic) (d : Draft) : Prop where
  settle_eq : d.settle = (styleAsked value topics).map (asked path topics)
  closed_eq : d.closed = false
  path_eq : .path ∉ topics → d.path = none

/-- Taking arguments gives a draft that holds what the parts say, or refuses their style. -/
def Reaches (path value : String) (topics : List Topic) : Except Reply Draft → Prop
  | .ok d => d.Shows path value topics
  | .error reply => styleAsked value topics = .error reply

section

variable {path value : String} {topics : List Topic} {d : Draft}

theorem styleAsked_of_notMem (h : .style ∉ topics) : styleAsked value topics = .ok none :=
  if_neg h

theorem styleAsked_append_of_ne {topic : Topic} (h : topic ≠ .style) :
    styleAsked value (topics ++ [topic]) = styleAsked value topics := by
  simp [styleAsked, h.symm]

/-- A refusal stays. -/
theorem styleAsked_append_of_error {reply : Reply} (h : styleAsked value topics = .error reply)
    (more : List Topic) : styleAsked value (topics ++ more) = .error reply := by
  have hmem : .style ∈ topics := by
    by_contra hmem
    rw [styleAsked_of_notMem hmem] at h
    cases h
  rw [styleAsked, if_pos hmem] at h
  rw [styleAsked, if_pos (List.mem_append_left more hmem), h]

/-- All that the parts can ask for: no style, a style by one of its names, or a style that there is
not. -/
theorem styleAsked_cases (value : String) (topics : List Topic) :
    (.style ∉ topics ∧ styleAsked value topics = .ok none) ∨
    (.style ∈ topics ∧ ∃ style : Style, value.toLower ∈ style.names ∧
      styleAsked value topics = .ok (some style)) ∨
    (.style ∈ topics ∧ (∀ style : Style, value.toLower ∉ style.names) ∧
      styleAsked value topics = .error (.misuse (.badStyle ⟨value⟩))) := by
  by_cases hmem : .style ∈ topics
  · rw [styleAsked, if_pos hmem]
    by_cases hnamed : ∃ style : Style, value.toLower ∈ style.names
    · obtain ⟨style, hname⟩ := hnamed
      refine .inr (.inl ⟨hmem, style, hname, ?_⟩)
      rw [Style.parse_eq_ok_iff.mpr hname]
    · rw [not_exists] at hnamed
      refine .inr (.inr ⟨hmem, hnamed, ?_⟩)
      rw [Style.parse_eq_error hnamed]
  · exact .inl ⟨hmem, styleAsked_of_notMem hmem⟩

theorem reaches_asked :
    Reaches path value topics ((styleAsked value topics).map (Draft.asked path topics)) := by
  cases hstyle : styleAsked value topics with
  | error reply => exact hstyle
  | ok style => exact ⟨by rw [hstyle]; rfl, rfl, fun h => if_neg h⟩

/-! ### One part more -/

theorem raise_asked {topic : Topic} {flag : Flag} (hflag : topic.flag? = some flag)
    (hnew : topic ∉ topics) (style : Option Style) :
    (Draft.asked path topics style).raise flag =
      .ok (Draft.asked path (topics ++ [topic]) style) := by
  cases topic with
  | path => cases hflag
  | style => cases hflag
  | summary =>
    obtain rfl := Option.some.inj hflag
    show (if (Draft.asked path topics style).summary then _ else _) = _
    simp [Draft.asked, hnew]
  | verbose =>
    obtain rfl := Option.some.inj hflag
    show (if (Draft.asked path topics style).verbose then _ else _) = _
    simp [Draft.asked, hnew]

/-- A flag adds what it says to a draft, once the pending value is examined. -/
theorem reaches_flag {topic : Topic} {flag : Flag} (h : d.Shows path value topics)
    (hflag : topic.flag? = some flag) (hnew : topic ∉ topics) :
    Reaches path value (topics ++ [topic]) (d.raise flag) := by
  -- A flag asks for no style, so the style that was asked for stays.
  have hstyle : topic ≠ .style := by
    rintro rfl
    cases hflag
  have hraise : d.raise flag =
      (styleAsked value (topics ++ [topic])).map (Draft.asked path (topics ++ [topic])) := by
    rw [styleAsked_append_of_ne hstyle, Draft.raise, h.settle_eq]
    cases styleAsked value topics with
    | error reply => rfl
    | ok style => exact raise_asked hflag hnew style
  rw [hraise]
  exact reaches_asked

theorem setStyle_asked :
    (Draft.asked path topics none).setStyle value =
      (styleAsked value (topics ++ [.style])).map (Draft.asked path (topics ++ [.style])) := by
  rw [styleAsked, if_pos (by simp), Draft.setStyle,
    show (Draft.asked path topics none).style.isSome = false from rfl, if_neg Bool.false_ne_true]
  cases Style.parse value with
  | error unknown => rfl
  | ok style => simp [Draft.asked, Except.map]

/-- The option with its value in the same argument. -/
theorem reaches_joinedStyle (h : d.Shows path value topics) (hnew : .style ∉ topics) :
    Reaches path value (topics ++ [.style]) (d.takeStyle (some value)) := by
  rw [Draft.takeStyle, h.settle_eq, styleAsked_of_notMem hnew]
  show Reaches path value _ ((Draft.asked path topics none).setStyle value)
  rw [setStyle_asked]
  exact reaches_asked

/-- The option with its value in an argument of its own. -/
theorem reaches_separateStyle (h : d.Shows path value topics) (hnew : .style ∉ topics)
    (hvalue : IsPlain value) :
    Reaches path value (topics ++ [.style]) (d.takeStyle none >>= (·.take value)) := by
  -- The option waits for its value, and a plain argument behind it becomes that value.
  have hoption : d.takeStyle none =
      .ok { Draft.asked path topics none with pending := .style none } := by
    rw [Draft.takeStyle, h.settle_eq, styleAsked_of_notMem hnew]
    rfl
  have htake : Draft.take { Draft.asked path topics none with pending := .style none } value =
      .ok { Draft.asked path topics none with pending := .style (some value) } := by
    rw [Draft.take_plain hvalue rfl]
    rfl
  have htaken : d.takeStyle none >>= (·.take value) =
      .ok { Draft.asked path topics none with pending := .style (some value) } := by
    rw [hoption]
    exact htake
  rw [htaken]
  refine ⟨?_, rfl, fun hpath => if_neg fun hmem => hpath (List.mem_append_left _ hmem)⟩
  show (Draft.asked path topics none).setStyle value = _
  exact setStyle_asked

/-- What may be left to examine before the path is seen. -/
theorem pending_cases (h : d.Shows path value topics) (hnew : .path ∉ topics) :
    d.pending = .nothing ∨ ∃ v, d.pending = .style (some v) := by
  -- Examining the other pending values would miss a value or would settle the path.
  have hmissing (usage : String) : d.settle ≠ .error (.misuse (.missingValue usage)) := by
    rw [h.settle_eq]
    rcases styleAsked_cases value topics with ⟨-, hasked⟩ | ⟨-, _, -, hasked⟩ | ⟨-, -, hasked⟩ <;>
      simp [hasked, Except.map]
  have hnone (s : Draft) (hs : d.settle = .ok s) : s.path = none := by
    rw [h.settle_eq] at hs
    cases hstyle : styleAsked value topics with
    | error reply =>
      rw [hstyle] at hs
      cases hs
    | ok style =>
      rw [hstyle] at hs
      obtain rfl := Except.ok.inj hs
      exact if_neg hnew
  rw [Draft.settle] at hmissing hnone
  cases hpending : d.pending with
  | nothing => exact .inl rfl
  | path v =>
    rw [hpending] at hmissing hnone
    by_cases hempty : v.isEmpty
    · exact absurd (if_pos hempty) (hmissing pathUsage)
    · exact absurd (hnone _ (if_neg hempty)) (by simp)
  | style v =>
    cases v with
    | some v => exact .inr ⟨v, rfl⟩
    | none =>
      rw [hpending] at hmissing
      exact absurd rfl (hmissing formatUsage)

theorem reaches_path (h : d.Shows path value topics) (hnew : .path ∉ topics)
    (hpath : IsPlain path) :
    Reaches path value (topics ++ [.path]) (d.take path) := by
  have hpending := pending_cases h hnew
  -- An option that still waits for its value would take the path for it.
  have hcomplete : d.pending ≠ .style none := by
    intro hnone
    simp [hnone] at hpending
  have htake : d.take path = d.settle.map fun d => { d with pending := .path path } := by
    rw [Draft.take_plain hpath h.closed_eq, Draft.takePlain, if_neg hcomplete,
      Draft.takePath_eq (h.path_eq hnew) hpending]
  rw [htake, h.settle_eq]
  cases hstyle : styleAsked value topics with
  | error reply => exact styleAsked_append_of_error hstyle _
  | ok style =>
    refine ⟨?_, rfl, fun hmem => absurd (by simp) hmem⟩
    rw [styleAsked_append_of_ne (by decide), hstyle]
    show (if path.isEmpty then _ else _) = _
    rw [if_neg (by simpa using hpath.1)]
    simp [Draft.asked, Except.map]

/-- **One part more.** -/
theorem reaches_part {part : Part} (h : d.Shows path value topics) (hnew : part.topic ∉ topics)
    (hpath : IsPlain path) (hvalue : IsPlain value) :
    Reaches path value (topics ++ [part.topic])
      ((part.arguments path value).foldlM Draft.take d) := by
  have hone (s : String) (d : Draft) : [s].foldlM Draft.take d = d.take s := by
    rw [List.foldlM_cons]
    cases d.take s <;> rfl
  have htwo (s t : String) : [s, t].foldlM Draft.take d = d.take s >>= (·.take t) := by
    rw [List.foldlM_cons, funext (hone t)]
  cases part with
  | path =>
    rw [Part.arguments, hone]
    exact reaches_path h hnew hpath
  | shortStyle =>
    rw [Part.arguments, htwo, Draft.take_shortStyle h.closed_eq]
    exact reaches_separateStyle h hnew hvalue
  | longStyle =>
    rw [Part.arguments, htwo, Draft.take_longStyle h.closed_eq]
    exact reaches_separateStyle h hnew hvalue
  | joinedStyle =>
    rw [Part.arguments, hone, Draft.take_joinedStyle value h.closed_eq]
    exact reaches_joinedStyle h hnew
  | shortSummary =>
    rw [Part.arguments, hone, Draft.take_shortFlag .summary rfl h.closed_eq]
    exact reaches_flag h rfl hnew
  | longSummary =>
    rw [Part.arguments, hone, Draft.take_longFlag .summary rfl h.closed_eq]
    exact reaches_flag h rfl hnew
  | shortVerbose =>
    rw [Part.arguments, hone, Draft.take_shortFlag .verbose rfl h.closed_eq]
    exact reaches_flag h rfl hnew
  | longVerbose =>
    rw [Part.arguments, hone, Draft.take_longFlag .verbose rfl h.closed_eq]
    exact reaches_flag h rfl hnew

/-- Any parts, one after the other, no two of them about the same. -/
theorem reaches_parts {parts : List Part} (h : d.Shows path value topics)
    (honce : (topics ++ parts.map Part.topic).Nodup) (hpath : IsPlain path)
    (hvalue : IsPlain value) :
    Reaches path value (topics ++ parts.map Part.topic)
      ((parts.flatMap (Part.arguments path value)).foldlM Draft.take d) := by
  -- The induction is on the parts; a refusal by one of them ends the arguments.
  induction parts generalizing d topics with
  | nil =>
    rw [List.map_nil, List.append_nil]
    exact h
  | cons part parts ih =>
    rw [List.map_cons, List.append_cons] at honce ⊢
    have hnew : part.topic ∉ topics := fun hseen =>
      List.disjoint_of_nodup_append honce.of_append_left hseen (List.mem_singleton_self _)
    have hpart := reaches_part h hnew hpath hvalue
    rw [List.flatMap_cons, List.foldlM_append]
    cases htake : (part.arguments path value).foldlM Draft.take d with
    | error reply =>
      rw [htake] at hpart
      exact styleAsked_append_of_error hpart _
    | ok d =>
      rw [htake] at hpart
      exact ih hpart honce

/-- What the arguments are read as, if the path is among them. -/
theorem parse_eq_map {parts : List Part} (hpath : IsPlain path) (hvalue : IsPlain value)
    (honce : (parts.map Part.topic).Nodup) (hmem : .path ∈ parts.map Part.topic) :
    parse (parts.flatMap (Part.arguments path value)) =
      (styleAsked value (parts.map Part.topic)).map fun style =>
        ⟨path, style.getD .text, .summary ∈ parts.map Part.topic,
          .verbose ∈ parts.map Part.topic⟩ := by
  have hempty : Draft.empty.Shows path value [] := ⟨rfl, rfl, fun _ => rfl⟩
  have hreach := reaches_parts hempty honce hpath hvalue
  rw [List.nil_append] at hreach
  rw [parse]
  -- A style is refused by a later argument or, if none comes, where the draft is finished.
  cases htake : (parts.flatMap (Part.arguments path value)).foldlM Draft.take .empty with
  | error reply =>
    rw [htake] at hreach
    rw [show styleAsked value (parts.map Part.topic) = .error reply from hreach]
    rfl
  | ok d =>
    rw [htake] at hreach
    have hsettle := hreach.settle_eq
    show d.finish = _
    cases hstyle : styleAsked value (parts.map Part.topic) with
    | error reply =>
      rw [hstyle] at hsettle
      rw [Draft.finish, hsettle]
      rfl
    | ok style =>
      rw [hstyle] at hsettle
      exact Draft.finish_eq hsettle (if_pos hmem)

end

theorem Settings.name_level (s : Settings) :
    s.level.name = if s.verbose then "debug" else "warn" := by
  rw [level]
  split <;> rfl

/-- **Arguments in any order and spelling.**  They are refused only for a value that is no name of a
style, in capitals or small letters of ASCII, and otherwise say what their parts say. -/
theorem parse_arguments (path value : String) (parts : List Part) (hpath : IsPlain path)
    (hvalue : IsPlain value) (hmem : Part.path ∈ parts) (honce : (parts.map Part.topic).Nodup) :
    let topics := parts.map Part.topic
    let result := parse (parts.flatMap (Part.arguments path value))
    ((∃ settings, result = .ok settings) ↔
      (.style ∈ topics → ∃ style : Style, value.toLower ∈ style.names)) ∧
    (∀ settings, result = .ok settings →
      settings.path = path ∧
      (.style ∉ topics → settings.style = .text) ∧
      (.style ∈ topics →
        value.toLower ∈ settings.style.names ∧ ∀ c ∈ value.toList, c.toNat < 0x80) ∧
      (settings.summary = true ↔ .summary ∈ topics) ∧
      settings.level.name = if .verbose ∈ topics then "debug" else "warn") ∧
    ((¬ ∃ settings, result = .ok settings) →
      result = .error (.misuse (.badStyle ⟨value⟩))) := by
  intro topics result
  have hresult : result = (styleAsked value topics).map fun style =>
      ⟨path, style.getD .text, .summary ∈ topics, .verbose ∈ topics⟩ :=
    parse_eq_map hpath hvalue honce (List.mem_map_of_mem hmem)
  have hflags (style : Style) :
      let settings : Settings := ⟨path, style, .summary ∈ topics, .verbose ∈ topics⟩
      (settings.summary = true ↔ .summary ∈ topics) ∧
        settings.level.name = if .verbose ∈ topics then "debug" else "warn" :=
    ⟨decide_eq_true_iff, (Settings.name_level _).trans (if_congr decide_eq_true_iff rfl rfl)⟩
  -- The option is not there, or its value names a style, or it names none.
  rcases styleAsked_cases value topics with
    ⟨hno, hasked⟩ | ⟨hyes, style, hname, hasked⟩ | ⟨hyes, hunknown, hasked⟩
  · rw [hasked] at hresult
    refine ⟨iff_of_true ⟨_, hresult⟩ fun h => absurd h hno, ?_, fun h => absurd ⟨_, hresult⟩ h⟩
    intro settings hsettings
    obtain rfl := Except.ok.inj (hresult.symm.trans hsettings)
    exact ⟨rfl, fun _ => rfl, fun h => absurd h hno, hflags .text⟩
  · rw [hasked] at hresult
    refine ⟨iff_of_true ⟨_, hresult⟩ fun _ => ⟨style, hname⟩, ?_, fun h => absurd ⟨_, hresult⟩ h⟩
    intro settings hsettings
    obtain rfl := Except.ok.inj (hresult.symm.trans hsettings)
    exact ⟨rfl, fun h => absurd hyes h, fun _ => ⟨hname, Style.ascii_of_mem_names hname⟩,
      hflags style⟩
  · rw [hasked] at hresult
    have hrefused : ¬ ∃ settings, result = .ok settings := by
      rintro ⟨settings, hsettings⟩
      cases hresult.symm.trans hsettings
    refine ⟨iff_of_false hrefused ?_, fun settings h => absurd ⟨settings, h⟩ hrefused,
      fun _ => hresult⟩
    intro h
    obtain ⟨style, hname⟩ := h hyes
    exact hunknown style hname

/-- The path in the middle, the value in capitals and small letters, and each option once. -/
theorem parse_arguments_mixed :
    let parts : List Part := [.shortSummary, .joinedStyle, .path, .longVerbose]
    IsPlain "log.bin" ∧ IsPlain "JsonL" ∧ Part.path ∈ parts ∧ (parts.map Part.topic).Nodup ∧
      ∃ settings, parse ["-s", "--format=JsonL", "log.bin", "--verbose"] = .ok settings ∧
        settings.path = "log.bin" ∧ settings.style = .json ∧ settings.summary = true ∧
        settings.level.name = "debug" := by
  intro parts
  have hpath : IsPlain "log.bin" := ⟨by decide, by decide⟩
  have hvalue : IsPlain "JsonL" := ⟨by decide, by decide⟩
  have hmem : Part.path ∈ parts := by decide
  have honce : (parts.map Part.topic).Nodup := by decide
  have hname : "JsonL".toLower ∈ Style.names .json := by decide +kernel
  refine ⟨hpath, hvalue, hmem, honce, ?_⟩
  obtain ⟨hok, hsays, -⟩ := parse_arguments "log.bin" "JsonL" parts hpath hvalue hmem honce
  obtain ⟨settings, hsettings⟩ := hok.mpr fun _ => ⟨.json, hname⟩
  obtain ⟨hpathIs, -, hstyle, hsummary, hlevel⟩ := hsays settings hsettings
  have hjson : settings.style = .json := by
    have htold := (hstyle (by decide)).1
    cases hsettled : settings.style with
    | json => rfl
    | text =>
      rw [hsettled] at htold
      exact absurd htold (by decide +kernel)
  exact ⟨settings, hsettings, hpathIs, hjson, hsummary.mpr (by decide), hlevel⟩

end CommandLine

end PacketLog
