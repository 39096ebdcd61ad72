import ModePolicy.CommandLine.Parameters
import ModePolicy.Proofs.Json.Values
import ModePolicy.Proofs.Outcome

/-!
# Parameters, and names that may be missing

A parameter is malformed (`IsMalformed`) if it has no equals sign or begins with one; any other one is
written from a key and a value (`written`), and from no other key. An option that was given no text at
all leaves a hole in the list.

> `parseGivenPairs_given`, `parseGivenPairs_malformed`, `parseGivenPairs_missing`: what is read of
> parameters that are all written from keys and values, and otherwise what the first one that is not
> ends the reading with. One of the three cases applies (`given_or_not`).

Of several parameters of one key the last counts (`LastGives`), although its key stands where the first
of them is:

> `parsePairs_decodes`: reading fails exactly if a parameter is malformed, and otherwise gives each key
> its last value; what is written from distinct keys is read back as it was.
-/

namespace ModePolicy.CommandLine

/-- A key: anything without an equals sign but nothing. -/
structure IsKey (key : String) : Prop where
  nonempty : key ≠ ""
  plain : '=' ∉ key.toList

/-- A key and a value as a parameter. -/
def written (p : String × String) : String := p.1 ++ "=" ++ p.2

/-- The parameter has no equals sign, or no key before it. -/
def IsMalformed (text : String) : Prop := '=' ∉ text.toList ∨ ∃ rest, text.toList = '=' :: rest

/-- The parameters are written from these keys and values. -/
structure Given (params : List (Option String)) (pairs : List (String × String)) : Prop where
  texts : params = pairs.map fun p => some (written p)
  keys : ∀ p ∈ pairs, IsKey p.1

/-- The first parameter that is not written from a key and a value: it is malformed or missing. -/
def FirstNotGiven (params : List (Option String)) (param : Option String) : Prop :=
  ∃ before pairs after, params = before ++ param :: after ∧ Given before pairs
    ∧ ∀ text ∈ param, IsMalformed text

/-- A text is cut at its first equals sign. -/
theorem cut_append {cs : List Char} (h : '=' ∉ cs) (value : List Char) :
    (cs ++ '=' :: value).takeWhile (· != '=') = cs ∧
      (cs ++ '=' :: value).dropWhile (· != '=') = '=' :: value := by
  have hall : ∀ c ∈ cs, (c != '=') = true := fun c hc => by
    simpa using fun heq : c = '=' => h (heq ▸ hc)
  simp [List.takeWhile_append_of_pos hall, List.dropWhile_append_of_pos hall]

theorem cut_eq_nil {cs : List Char} (h : '=' ∉ cs) : cs.dropWhile (· != '=') = [] :=
  List.dropWhile_eq_nil_iff.mpr fun c hc => by simpa using fun heq : c = '=' => h (heq ▸ hc)

theorem splitPair_append {key value : List Char} (h : '=' ∉ key) :
    splitPair (key ++ '=' :: value) = some (key, value) := by
  obtain ⟨htake, hdrop⟩ := cut_append h value
  rw [splitPair, hdrop, htake]

theorem splitPair_eq_none {cs : List Char} (h : '=' ∉ cs) : splitPair cs = none := by
  rw [splitPair, cut_eq_nil h]

theorem toList_written (p : String × String) :
    (written p).toList = p.1.toList ++ '=' :: p.2.toList := by
  simp [written]

theorem parsePair_written {p : String × String} (h : IsKey p.1) : parsePair (written p) = .ok p := by
  obtain ⟨key, value⟩ := p
  have hsplit := @splitPair_append key.toList value.toList h.plain
  unfold parsePair
  rw [toList_written, hsplit]
  cases hkey : key.toList with
  | nil => exact absurd (String.toList_eq_nil_iff.mp hkey) h.nonempty
  | cons c rest =>
    simp only
    rw [← hkey, String.ofList_toList, String.ofList_toList]

theorem parsePair_malformed {text : String} (h : IsMalformed text) :
    parsePair text = .error (.parameter text) := by
  unfold parsePair
  rcases h with hnone | ⟨rest, hrest⟩
  · rw [splitPair_eq_none hnone]
  · have hsplit := @splitPair_append [] rest List.not_mem_nil
    rw [List.nil_append] at hsplit
    rw [hrest, hsplit]

/-- A parameter that is not malformed is written from a key and a value. -/
theorem malformed_or_written (text : String) :
    IsMalformed text ∨ ∃ p, IsKey p.1 ∧ text = written p := by
  by_cases hmem : '=' ∈ text.toList
  swap
  · exact .inl (.inl hmem)
  obtain ⟨key, value, htext, hkey⟩ := List.eq_append_cons_of_mem hmem
  cases key with
  | nil => exact .inl (.inr ⟨value, htext⟩)
  | cons c key =>
    refine .inr ⟨(String.ofList (c :: key), String.ofList value), ⟨?_, ?_⟩, ?_⟩
    · simp
    · simpa using hkey
    · rw [← String.toList_inj, toList_written, htext]
      simp

/-! ## Parameters by key -/

/-- What is read of a parameter that may be missing. -/
def readParameter : Option String → Except Failure (String × String)
  | some text => (parsePair text).mapError .badValue
  | none => .error (.misuse .fieldless)

theorem parseGivenPairs_eq (params : List (Option String)) :
    parseGivenPairs params = Fields.ofList <$> params.mapM readParameter := rfl

variable {params before after : List (Option String)} {pairs : List (String × String)}

theorem Given.mapM_read (h : Given params pairs) : params.mapM readParameter = .ok pairs := by
  have hread : ∀ p ∈ pairs, (readParameter ∘ fun p => some (written p)) p = .ok (id p) := by
    intro p hp
    exact mapError_succeeds.mpr (parsePair_written (h.keys p hp))
  rw [h.texts, List.mapM_map, mapM_succeeds hread, List.map_id]

theorem parseGivenPairs_given (h : Given params pairs) :
    parseGivenPairs params = .ok (Fields.ofList pairs) := by
  rw [parseGivenPairs_eq, h.mapM_read]
  rfl

/-- Reading ends with the first parameter that cannot be read. -/
theorem parseGivenPairs_stops {param : Option String} {why : Failure} (h : Given before pairs)
    (hstop : readParameter param = .error why) :
    parseGivenPairs (before ++ param :: after) = .error why := by
  rw [parseGivenPairs_eq, List.mapM_append, h.mapM_read, List.mapM_cons, hstop]
  rfl

theorem parseGivenPairs_malformed {text : String} (h : FirstNotGiven params (some text)) :
    parseGivenPairs params = .error (.badValue (.parameter text)) := by
  obtain ⟨before, pairs, after, rfl, hgiven, hmalformed⟩ := h
  refine parseGivenPairs_stops hgiven ?_
  rw [readParameter, parsePair_malformed (hmalformed text rfl)]
  rfl

theorem parseGivenPairs_missing (h : FirstNotGiven params none) :
    parseGivenPairs params = .error (.misuse .fieldless) := by
  obtain ⟨before, pairs, after, rfl, hgiven, -⟩ := h
  exact parseGivenPairs_stops hgiven rfl

/-- Parameters are all written from keys and values, or there is a first one that is not. -/
theorem given_or_not (params : List (Option String)) :
    (∃ pairs, Given params pairs) ∨ ∃ param, FirstNotGiven params param := by
  induction params with
  | nil => exact .inl ⟨[], rfl, List.forall_mem_nil _⟩
  | cons param params ih =>
    have hfirst : (∀ text ∈ param, IsMalformed text) ∨
        ∃ p, IsKey p.1 ∧ param = some (written p) := by
      cases param with
      | none => exact .inl (by simp)
      | some text => simpa using malformed_or_written text
    rcases hfirst with hmalformed | ⟨p, hkey, rfl⟩
    · exact .inr ⟨param, [], [], params, rfl, ⟨rfl, List.forall_mem_nil _⟩, hmalformed⟩
    rcases ih with ⟨pairs, hgiven⟩ | ⟨bad, before, pairs, after, rfl, hgiven, hbad⟩
    · exact .inl ⟨p :: pairs, by simp [hgiven.texts], List.forall_mem_cons.mpr ⟨hkey, hgiven.keys⟩⟩
    · exact .inr ⟨bad, some (written p) :: before, p :: pairs, after, rfl,
        ⟨by simp [hgiven.texts], List.forall_mem_cons.mpr ⟨hkey, hgiven.keys⟩⟩, hbad⟩

/-- What is written from keys and values is written from no others, and nothing in it is malformed. -/
theorem Given.unique {others : List (String × String)} (h : Given params pairs)
    (hothers : Given params others) : pairs = others :=
  Except.ok.inj (h.mapM_read.symm.trans hothers.mapM_read)

theorem Given.not_firstNotGiven (h : Given params pairs) (param : Option String) :
    ¬ FirstNotGiven params param := by
  intro hfirst
  have hread := parseGivenPairs_given h
  cases param with
  | none => exact absurd (hread.symm.trans (parseGivenPairs_missing hfirst)) (by simp)
  | some text => exact absurd (hread.symm.trans (parseGivenPairs_malformed hfirst)) (by simp)

theorem not_malformed_written {p : String × String} (h : IsKey p.1) : ¬ IsMalformed (written p) :=
  fun hmalformed => absurd ((parsePair_written h).symm.trans (parsePair_malformed hmalformed)) (by simp)

/-- Parameters are not all written from keys and values iff one is malformed or missing. -/
theorem not_given_iff : (¬ ∃ pairs, Given params pairs) ↔
    ∃ param ∈ params, ∀ text ∈ param, IsMalformed text := by
  constructor
  · intro hnot
    obtain ⟨param, before, pairs, after, rfl, -, hbad⟩ := (given_or_not params).resolve_left hnot
    exact ⟨param, by simp, hbad⟩
  · rintro ⟨param, hmem, hbad⟩ ⟨pairs, hgiven⟩
    rw [hgiven.texts] at hmem
    obtain ⟨p, hp, rfl⟩ := List.mem_map.mp hmem
    exact not_malformed_written (hgiven.keys p hp) (hbad _ rfl)

/-! ## What is read back -/

/-- The text before the first equals sign. -/
def keyText (text : String) : String := String.ofList (text.toList.takeWhile (· != '='))

/-- The parameter gives a key a value: they are what stands before and after its first equals sign. -/
structure Gives (text key value : String) : Prop where
  plain : '=' ∉ key.toList
  text_eq : text = written (key, value)

/-- Of the parameters that give the key a value, the last one gives it this value. -/
def LastGives (texts : List String) (key value : String) : Prop :=
  ∃ before text after, texts = before ++ text :: after ∧ Gives text key value ∧
    ∀ later ∈ after, ∀ other, ¬ Gives later key other

section ReadBack

variable {p q : String × String} {texts : List String} {key value : String}

theorem keyText_written (h : IsKey p.1) : keyText (written p) = p.1 := by
  obtain ⟨htake, -⟩ := cut_append h.plain p.2.toList
  rw [keyText, toList_written, htake, String.ofList_toList]

/-- A parameter is written from one key and value only. -/
theorem written_inj (hp : '=' ∉ p.1.toList) (hq : '=' ∉ q.1.toList) (h : written p = written q) :
    p = q := by
  have hsplit : splitPair (written p).toList = splitPair (written q).toList := by rw [h]
  rw [toList_written, toList_written, splitPair_append hp, splitPair_append hq] at hsplit
  obtain ⟨hkey, hvalue⟩ := Prod.mk.inj (Option.some.inj hsplit)
  exact Prod.ext (String.toList_inj.mp hkey) (String.toList_inj.mp hvalue)

theorem gives_written_iff (h : IsKey p.1) : Gives (written p) key value ↔ p = (key, value) := by
  constructor
  · intro hgives
    exact written_inj h.plain hgives.plain hgives.text_eq
  · rintro rfl
    exact ⟨h.plain, rfl⟩

/-- Parameters of which none is malformed are written from keys and values. -/
theorem exists_pairs (h : ∀ text ∈ texts, ¬ IsMalformed text) :
    ∃ pairs : List (String × String), (∀ p ∈ pairs, IsKey p.1) ∧ texts = pairs.map written := by
  induction texts with
  | nil => exact ⟨[], List.forall_mem_nil _, rfl⟩
  | cons text rest ih =>
    obtain ⟨htext, hrest⟩ := List.forall_mem_cons.mp h
    obtain ⟨p, hp, rfl⟩ := (malformed_or_written text).resolve_left htext
    obtain ⟨pairs, hpairs, rfl⟩ := ih hrest
    exact ⟨p :: pairs, List.forall_mem_cons.mpr ⟨hp, hpairs⟩, rfl⟩

theorem parsePairs_written (h : ∀ p ∈ pairs, IsKey p.1) :
    parsePairs (pairs.map written) = .ok (Fields.ofList pairs) := by
  have hread : ∀ p ∈ pairs, (parsePair ∘ written) p = .ok (id p) :=
    fun p hp => parsePair_written (h p hp)
  unfold parsePairs
  rw [List.mapM_map, mapM_succeeds hread, List.map_id]
  rfl

/-- Reading fails exactly if a parameter is malformed. -/
theorem parsePairs_fails_iff :
    (∃ why, parsePairs texts = .error why) ↔ ∃ text ∈ texts, IsMalformed text := by
  constructor
  · rintro ⟨why, hwhy⟩
    by_contra hnone
    have hgood : ∀ text ∈ texts, ¬ IsMalformed text := by simpa using hnone
    obtain ⟨pairs, hpairs, rfl⟩ := exists_pairs hgood
    exact absurd (hwhy.symm.trans (parsePairs_written hpairs)) (by simp)
  · rintro ⟨text, hmem, hmalformed⟩
    cases hread : parsePairs texts with
    | error why => exact ⟨why, rfl⟩
    | ok fields =>
      obtain ⟨pairs, hpairs⟩ : ∃ pairs, texts.mapM parsePair = .ok pairs := by
        unfold parsePairs at hread
        cases hpairs : texts.mapM parsePair with
        | ok pairs => exact ⟨pairs, rfl⟩
        | error why => exact absurd (hpairs ▸ hread) (by simp [Functor.map, Except.map])
      obtain ⟨p, hp⟩ := exists_mapM_iff.mp ⟨pairs, hpairs⟩ text hmem
      exact absurd (hp.symm.trans (parsePair_malformed hmalformed)) (by simp)

/-- A command that was given texts reads them as they are read alone. -/
theorem parseGivenPairs_texts (texts : List String) :
    parseGivenPairs (texts.map some) = (parsePairs texts).mapError .badValue := by
  have hread : (texts.map some).mapM readParameter = (texts.mapM parsePair).mapError .badValue := by
    induction texts with
    | nil => rfl
    | cons text rest ih =>
      have hfirst : readParameter (some text) = (parsePair text).mapError .badValue := rfl
      rw [List.map_cons, List.mapM_cons, List.mapM_cons, ih, hfirst]
      cases parsePair text with
      | error why => rfl
      | ok pair => cases rest.mapM parsePair <;> rfl
  rw [parseGivenPairs_eq, hread, parsePairs]
  cases texts.mapM parsePair <;> rfl

/-- The value of a key is the one that the last parameter of the key gives. -/
theorem lookup_ofList_iff (h : ∀ p ∈ pairs, IsKey p.1) :
    (Fields.ofList pairs).lookup key = some value ↔ LastGives (pairs.map written) key value := by
  rw [Fields.lookup_ofList, List.lookup_eq_some_iff]
  constructor
  · rintro ⟨after, before, hsplit, hafter⟩
    have hpairs : pairs = before.reverse ++ (key, value) :: after.reverse := by
      rw [← List.reverse_reverse pairs, hsplit]
      simp
    have hkey : IsKey key := h (key, value) (by simp [hpairs])
    refine ⟨before.reverse.map written, written (key, value), after.reverse.map written, ?_,
      ⟨hkey.plain, rfl⟩, ?_⟩
    · rw [hpairs, List.map_append, List.map_cons]
    · intro later hlater other hgives
      obtain ⟨p, hp, rfl⟩ := List.mem_map.mp hlater
      rw [gives_written_iff (h p (by simp [hpairs, List.mem_reverse.mp hp]))] at hgives
      exact bne_iff_ne.mp (hafter p (List.mem_reverse.mp hp)) (by rw [hgives])
  · rintro ⟨before, text, after, hsplit, hgives, hafter⟩
    obtain ⟨front, back, rfl, rfl, hback⟩ := List.map_eq_append_iff.mp hsplit
    obtain ⟨p, later, rfl, rfl, rfl⟩ := List.map_eq_cons_iff.mp hback
    obtain rfl := (gives_written_iff (h p (by simp))).mp hgives
    refine ⟨later.reverse, front.reverse, by simp, fun q hq => bne_iff_ne.mpr ?_⟩
    rintro rfl
    have hq : q ∈ later := List.mem_reverse.mp hq
    exact hafter _ (List.mem_map_of_mem hq) q.2 ((gives_written_iff (h q (by simp [hq]))).mpr rfl)

end ReadBack

/-- **What parameters are read as.** For all texts, reading fails exactly if one of them has no equals
sign or begins with one. Otherwise a key has a value exactly if the last parameter of the key gives it
that value, and the keys stand in the order in which they first occur. What is written from distinct
keys, and any values, is read back as these keys and values. A command that is given the texts reads
them in the same way. -/
theorem parsePairs_decodes (texts : List String) :
    ((∃ why, parsePairs texts = .error why) ↔ ∃ text ∈ texts, IsMalformed text) ∧
    (∀ fields, parsePairs texts = .ok fields →
      (∀ key value, fields.lookup key = some value ↔ LastGives texts key value) ∧
      fields.names = (texts.map keyText).eraseDups) ∧
    (∀ pairs : List (String × String), (∀ p ∈ pairs, IsKey p.1) → (pairs.map (·.1)).Nodup →
      parsePairs (pairs.map written) = .ok pairs) ∧
    parseGivenPairs (texts.map some) = (parsePairs texts).mapError .badValue := by
  refine ⟨parsePairs_fails_iff, fun fields hread => ?_, fun pairs hkeys hdistinct => ?_,
    parseGivenPairs_texts texts⟩
  · have hgood : ∀ text ∈ texts, ¬ IsMalformed text := fun text hmem hmalformed => by
      obtain ⟨why, hwhy⟩ := parsePairs_fails_iff.mpr ⟨text, hmem, hmalformed⟩
      exact absurd (hread.symm.trans hwhy) (by simp)
    obtain ⟨pairs, hkeys, rfl⟩ := exists_pairs hgood
    obtain rfl := Except.ok.inj (hread.symm.trans (parsePairs_written hkeys))
    refine ⟨fun key value => lookup_ofList_iff hkeys, ?_⟩
    have hnames : (pairs.map written).map keyText = Fields.names pairs := by
      rw [List.map_map]
      exact List.map_congr_left fun p hp => keyText_written (hkeys p hp)
    rw [hnames, Fields.names_ofList]
  · rw [parsePairs_written hkeys, Fields.ofList_of_nodup hdistinct]

/-- Parameters that give one key two values, the last of them empty, and another key a value that holds
an equals sign. -/
def repeatedParameters : List String := ["path=a.md", "content=x=y", "path="]

/-- The key that is given twice has the empty value, and stands first. -/
theorem repeatedParameters_decoded :
    (∃ fields, parsePairs repeatedParameters = .ok fields ∧ fields.lookup "path" = some "" ∧
      fields.lookup "content" = some "x=y" ∧ fields.names = ["path", "content"]) ∧
    (∃ why, parsePairs ("=x" :: repeatedParameters) = .error why) ∧
    parsePairs ([("path", "a\n=b"), ("content", "")].map written) =
      .ok [("path", "a\n=b"), ("content", "")] := by
  have hkey : IsKey "path" ∧ IsKey "content" := ⟨⟨by decide, by decide⟩, ⟨by decide, by decide⟩⟩
  obtain ⟨-, hdecodes, hwritten, -⟩ := parsePairs_decodes repeatedParameters
  refine ⟨?_, (parsePairs_decodes _).1.mpr ⟨"=x", by simp, .inr ⟨['x'], rfl⟩⟩, ?_⟩
  · cases hread : parsePairs repeatedParameters with
    | error why =>
      obtain ⟨text, hmem, hmalformed⟩ := (parsePairs_decodes repeatedParameters).1.mp ⟨why, hread⟩
      revert hmalformed
      simp only [repeatedParameters, List.mem_cons, List.not_mem_nil, or_false] at hmem
      rcases hmem with rfl | rfl | rfl <;> simp [IsMalformed]
    | ok fields =>
      obtain ⟨hlast, hnames⟩ := hdecodes fields hread
      refine ⟨fields, rfl, (hlast _ _).mpr ?_, (hlast _ _).mpr ?_, hnames.trans (by decide)⟩
      · exact ⟨["path=a.md", "content=x=y"], "path=", [], rfl, ⟨hkey.1.plain, rfl⟩, by simp⟩
      · refine ⟨["path=a.md"], "content=x=y", ["path="], rfl, ⟨hkey.2.plain, rfl⟩, ?_⟩
        rintro later hlater other ⟨-, hother⟩
        rw [List.mem_singleton.mp hlater] at hother
        exact absurd (congrArg (fun text => text.toList.head?) hother) (by simp [written])
  · exact hwritten _ (by simp [hkey]) (by decide)

/-! ## Names -/

theorem givenNames_some (names : List String) : givenNames (names.map some) = .ok names := by
  have hname : ∀ name ∈ names, (Except.ok name : Except Misuse String) = .ok (id name) :=
    fun _ _ => rfl
  unfold givenNames
  rw [List.mapM_map]
  exact (mapM_succeeds hname).trans (by rw [List.map_id])

theorem givenNames_missing {names : List (Option String)} (h : none ∈ names) :
    givenNames names = .error .unsuitable := by
  induction names with
  | nil => exact absurd h List.not_mem_nil
  | cons name names ih =>
    cases name with
    | none => rfl
    | some name =>
      have hrest := ih (by simpa using h)
      unfold givenNames at hrest ⊢
      rw [List.mapM_cons, hrest]
      rfl

/-- Unless one is missing, names are texts. -/
theorem exists_names {names : List (Option String)} (h : none ∉ names) :
    ∃ texts : List String, names = texts.map some := by
  refine ⟨names.filterMap id, ?_⟩
  induction names with
  | nil => rfl
  | cons name names ih =>
    cases name with
    | none => exact absurd (List.mem_cons_self ..) h
    | some name => simpa using ih fun hmem => h (List.mem_cons_of_mem _ hmem)

end ModePolicy.CommandLine
