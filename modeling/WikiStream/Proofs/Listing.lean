import Mathlib.Data.List.Forall2
import WikiStream.Conversion
import WikiStream.OutputFormat

namespace WikiStream

namespace Text

def feeds (s : String) : Nat := s.toList.count '\n'

@[simp] theorem feeds_append (s t : String) : feeds (s ++ t) = feeds s + feeds t := by
  simp only [feeds, String.toList_append, List.count_append]

@[simp] theorem feeds_of_notMem {s : String} (h : '\n' ∉ s.toList) : feeds s = 0 :=
  List.count_eq_zero_of_not_mem h

theorem feeds_ofList {l : List Char} (h : '\n' ∉ l) : feeds (String.ofList l) = 0 :=
  feeds_of_notMem (by rwa [String.toList_ofList])

theorem feeds_intercalate {separator : String} (h : feeds separator = 0) (l : List String) :
    feeds (separator.intercalate l) = feeds (String.join l) := by
  match l with
  | [] => rfl
  | [s] => rw [String.intercalate_singleton, String.join_cons, String.join_nil, String.append_empty]
  | s :: t :: rest =>
    have ih := feeds_intercalate h (t :: rest)
    have hjoin : String.join (s :: t :: rest) = s ++ String.join (t :: rest) := String.join_cons
    rw [String.intercalate_cons_cons, hjoin, feeds_append, feeds_append, feeds_append, ih, h,
      Nat.add_zero]

theorem lineFeed_notMem_toDigits {b : Nat} (hb : 1 < b) (n : Nat) : '\n' ∉ Nat.toDigits b n := by
  induction n using Nat.strongRecOn with
  | ind n ih =>
    have hdigit (d : Nat) : '\n' ∉ [Nat.digitChar d] := by
      rw [List.mem_singleton]
      exact (Nat.digitChar_ne '\n' rfl).symm
    rw [Nat.toDigits_eq_if hb]
    split
    · exact hdigit n
    · have hsmaller : n / b < n := Nat.div_lt_self (by omega) hb
      rw [List.mem_append, not_or]
      exact ⟨ih _ hsmaller, hdigit _⟩

@[simp] theorem feeds_decimal (n : Nat) : feeds (String.ofList (decimal n)) = 0 :=
  feeds_ofList (lineFeed_notMem_toDigits (by decide) n)

theorem lineFeed_notMem_escapeChar (quote c : Char) : '\n' ∉ escapeChar quote c := by
  unfold escapeChar
  split_ifs with h0 ht hr hn hquoted hhidden
  · decide
  · decide
  · decide
  · decide
  · simp [Ne.symm hn]
  · have hdigits := lineFeed_notMem_toDigits (b := 16) (by decide) c.toNat
    simp [escapeCodePoint, hdigits]
  · simp [Ne.symm hn]

@[simp] theorem feeds_quoted (s : String) : feeds (quoted s) = 0 := by
  have hescaped : '\n' ∉ s.toList.flatMap (escapeChar '"') := by
    intro h
    obtain ⟨c, -, hc⟩ := List.mem_flatMap.1 h
    exact lineFeed_notMem_escapeChar '"' c hc
  apply feeds_ofList
  simp [hescaped]

@[simp] theorem feeds_quotedChar (c : Char) : feeds (quotedChar c) = 0 := by
  have hescaped := lineFeed_notMem_escapeChar '\'' c
  apply feeds_ofList
  simp [hescaped]

theorem feeds_join_eq_zero {l : List String} :
    feeds (String.join l) = 0 ↔ ∀ s ∈ l, '\n' ∉ s.toList := by
  induction l with
  | nil => simp
  | cons s l ih =>
    rw [String.join_cons, feeds_append, Nat.add_eq_zero_iff, ih, List.forall_mem_cons]
    exact and_congr_left' List.count_eq_zero

theorem length_splitOn (c : Char) (l : List Char) : (splitOn c l).length = l.count c + 1 := by
  fun_induction splitOn c l with
  | case1 => rfl
  | case2 rest ih => simp [ih]
  | case3 d rest hd hnil ih => simp [hnil] at ih
  | case4 d rest hd piece pieces hcons ih =>
    rw [hcons] at ih
    rw [List.count_cons_of_ne hd, ← ih]
    rfl

end Text

def Reference.rawTexts (r : Reference) : List String := r.text :: r.anchor.toList

def Opening.rawTexts : Opening → List String
  | .document | .definitionTerm | .definitionDescription | .figureCaption => []
  | .link reference _ parameters => reference.rawTexts ++ parameters.keys
  | .unknown id parameters => id :: parameters.keys
  | .header _ _ parameters | .list _ parameters | .format _ parameters
  | .paragraph parameters | .listItem parameters | .definitionList parameters
  | .table parameters | .tableRow parameters | .tableCell parameters | .tableHeadCell parameters
  | .group parameters | .figure parameters => parameters.keys

def Construct.rawTexts : Construct → List String
  | .unknown id => [id]
  | _ => []

def Single.rawTexts : Single → List String
  | .unknown id parameters | .macroCall id parameters _ _ => id :: parameters.keys
  | .image reference _ parameters => reference.rawTexts ++ parameters.keys
  | .verbatim _ _ parameters | .horizontalLine parameters => parameters.keys
  | .text _ => []

def Event.rawTexts : Event → List String
  | .opening o => o.rawTexts
  | .closing c => c.rawTexts
  | .single s => s.rawTexts

namespace Trace

open Text

@[simp] theorem feeds_parameterText (a : Attributes) :
    feeds (parameterText a) = feeds (String.join a.keys) := by
  have hpairs (l : List (String × String)) :
      feeds (String.join (l.map fun p ↦ p.1 ++ "=" ++ quoted p.2)) =
        feeds (String.join (l.map Prod.fst)) := by
    induction l with
    | nil => rfl
    | cons p l ih =>
      simp [ih]
  unfold parameterText
  split
  · rename_i h
    rw [Dict.eq_empty_of_isEmpty h]
    rfl
  · rw [feeds_append, feeds_append, feeds_intercalate rfl, hpairs, Dict.keys]
    simp

@[simp] theorem feeds_levelText (level : Level) : feeds (levelText level) = 0 := by
  simp [levelText]

theorem feeds_flagText {name : String} (h : feeds name = 0) (set : Bool) :
    feeds (flagText name set) = 0 := by
  cases set <;> simp [flagText, h]

@[simp] theorem feeds_display (r : Reference) :
    feeds r.display = feeds (String.join r.rawTexts) := by
  obtain ⟨kind, text, anchor, typed⟩ := r
  have hscheme : feeds kind.scheme = 0 := by cases kind <;> rfl
  cases typed <;> cases anchor <;> simp [Reference.display, Reference.rawTexts, hscheme]

theorem feeds_openingDetails (o : Opening) :
    feeds (openingDetails o) = feeds (String.join o.rawTexts) := by
  cases o with
  | header level id parameters => cases id <;> simp [openingDetails, Opening.rawTexts]
  | list kind parameters => cases kind <;> simp [openingDetails, Opening.rawTexts, ListKind.name]
  | format format parameters =>
    cases format <;> simp [openingDetails, Opening.rawTexts, Format.name]
  | link reference freestanding parameters =>
    simp [openingDetails, linkText, Opening.rawTexts, feeds_flagText]
  | _ => simp [openingDetails, Opening.rawTexts]

theorem feeds_closingDetails (c : Construct) :
    feeds (closingDetails c) = feeds (String.join c.rawTexts) := by
  cases c with
  | list kind => cases kind <;> rfl
  | format format => cases format <;> rfl
  | _ => simp [closingDetails, Construct.rawTexts]

theorem feeds_name (c : Construct) : feeds c.name = 0 := by
  cases c <;> simp [Construct.name]

theorem feeds_singleText (s : Single) :
    feeds (singleText s) = feeds (String.join s.rawTexts) := by
  cases s with
  | text piece => cases piece <;> simp [singleText, pieceText, Single.rawTexts]
  | macroCall id parameters content inline =>
    cases content <;> simp [singleText, Single.rawTexts, feeds_flagText]
  | image reference freestanding parameters =>
    simp [singleText, linkText, Single.rawTexts, feeds_flagText]
  | _ => simp [singleText, Single.rawTexts, feeds_flagText]

theorem feeds_eventText (e : Event) : feeds (eventText e) = feeds (String.join e.rawTexts) := by
  cases e with
  | opening o => simp [eventText, Event.rawTexts, feeds_name, feeds_openingDetails]
  | closing c => simp [eventText, Event.rawTexts, feeds_name, feeds_closingDetails]
  | single s => exact feeds_singleText s

theorem exists_eq_line (depth : Nat) (e : Event) :
    ∃ body : String, line depth e = body ++ "\n" ∧ feeds body = feeds (String.join e.rawTexts) := by
  have hindent : feeds (String.ofList (List.replicate (2 * depth) ' ')) = 0 := by
    apply feeds_ofList
    intro h
    cases List.eq_of_mem_replicate h
  refine ⟨_, rfl, ?_⟩
  rw [feeds_append, hindent, feeds_eventText, Nat.zero_add]

/-- The line of an event, wherever it is indented to. -/
def IsLine (l : String) (e : Event) : Prop := ∃ depth, l = line depth e

theorem forall₂_lines (depth : Nat) (events : List Event) :
    List.Forall₂ IsLine (lines depth events) events := by
  induction events generalizing depth with
  | nil => exact .nil
  | cons e rest ih =>
    cases e with
    | opening o => exact .cons ⟨_, rfl⟩ (ih _)
    | closing c => exact .cons ⟨_, rfl⟩ (ih _)
    | single s => exact .cons ⟨_, rfl⟩ (ih _)

theorem feeds_join_of_isLine {shown : List String} {events : List Event}
    (h : List.Forall₂ IsLine shown events) :
    feeds (String.join shown) =
      events.length + feeds (String.join (events.flatMap Event.rawTexts)) := by
  induction h with
  | nil => rfl
  | @cons l e shown events hl _ ih =>
    obtain ⟨depth, rfl⟩ := hl
    obtain ⟨body, hline, hbody⟩ := exists_eq_line depth e
    have hfeed : feeds "\n" = 1 := rfl
    rw [String.join_cons, hline, feeds_append, feeds_append, ih, hbody, hfeed, List.flatMap_cons,
      String.join_append, feeds_append, List.length_cons]
    omega

theorem splitOn_join_of_isLine {shown : List String} {events : List Event}
    (h : List.Forall₂ IsLine shown events)
    (hraw : feeds (String.join (events.flatMap Event.rawTexts)) = 0) :
    splitOn '\n' (String.join shown).toList = shown.map (·.toList.dropLast) ++ [[]] := by
  induction h with
  | nil => rfl
  | @cons l e shown events hl _ ih =>
    obtain ⟨depth, rfl⟩ := hl
    obtain ⟨body, hline, hbody⟩ := exists_eq_line depth e
    rw [List.flatMap_cons, String.join_append, feeds_append, Nat.add_eq_zero_iff] at hraw
    have hfree : '\n' ∉ body.toList := List.count_eq_zero.1 (hbody.trans hraw.1)
    have hlist : (body ++ "\n").toList = body.toList ++ ['\n'] := String.toList_append
    rw [String.join_cons, hline, String.toList_append, hlist, List.append_assoc,
      List.singleton_append, splitOn_append hfree, ih hraw.2, List.map_cons, hlist,
      List.dropLast_concat]
    rfl

/-- There are as many line feeds in a listing as events in the stream and line feeds in the texts
that are written as they are. So its lines are those of the events where none of these texts holds
a line feed, and only there. -/
theorem one_line_per_event_iff (events : List Event) :
    let listing := (OutputFormat.trace.write events).toList
    let raw := events.flatMap Event.rawTexts
    let noFeeds : Prop := ∀ text ∈ raw, '\n' ∉ text.toList
    List.Forall₂ IsLine (lines 0 events) events ∧
      listing = (lines 0 events).flatMap String.toList ∧
      listing.count '\n' = events.length + (raw.flatMap String.toList).count '\n' ∧
      (listing.count '\n' = events.length ↔ noFeeds) ∧
      (splitOn '\n' listing = (lines 0 events).map (·.toList.dropLast) ++ [[]] ↔ noFeeds) := by
  intro listing raw noFeeds
  have hlines : List.Forall₂ IsLine (lines 0 events) events :=
    forall₂_lines 0 events
  have hlisting : listing = (String.join (lines 0 events)).toList := rfl
  have hcount : listing.count '\n' = events.length + feeds (String.join raw) :=
    feeds_join_of_isLine hlines
  have hnone : feeds (String.join raw) = 0 ↔ noFeeds := feeds_join_eq_zero
  refine ⟨hlines, String.toList_join, ?_, ?_, ?_⟩
  · rw [hcount, feeds, String.toList_join]
  · rw [hcount, ← hnone]
    omega
  · rw [← hnone]
    constructor
    · intro hsplit
      have hlength := congrArg List.length hsplit
      rw [length_splitOn, hcount, List.length_append, List.length_map, hlines.length_eq] at hlength
      simp only [List.length_singleton] at hlength
      omega
    · intro h
      rw [hlisting]
      exact splitOn_join_of_isLine hlines h

/-- A target that looks like the end of the document. -/
theorem link_forges_line :
    let link := (Tag.named "a").withAttribute "href" "x\nend document"
    let events := (Converter.document {} [.tag link]).events
    OutputFormat.trace.write events =
        "begin document\n  begin link path:x\nend document\n  end link\nend document\n" ∧
      events.length = 4 ∧ (OutputFormat.trace.write events).toList.count '\n' ≠ events.length := by
  intro link events
  refine ⟨by decide +kernel, by decide +kernel, ?_⟩
  intro hcount
  obtain ⟨-, -, -, hfeeds, -⟩ := one_line_per_event_iff events
  have hraw : "x\nend document" ∈ events.flatMap Event.rawTexts := by decide +kernel
  exact hfeeds.1 hcount _ hraw (by decide)

end Trace

end WikiStream
