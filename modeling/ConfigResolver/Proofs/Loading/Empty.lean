import ConfigResolver.Loading
import ConfigResolver.Proofs.Text.Search
import ConfigResolver.Proofs.Value.WellKeyed
import ConfigResolver.Proofs.Yaml.Vacant

/-!
# Files without a document

Loading a file is loading its text in the format that the name of the file tells
(`Format.ofPath_eq_json_iff`), and null is no document. Main statement: `load_empty_or_loaded`.

The two formats differ in what they make of a text of nothing but spaces and ends of lines
(`Loading.ofText_vacant`). In YAML it is null, so the file is empty. In JSON it is a fault of the
text, so the file is empty only if it holds nothing at all or is the word `null`.
-/

namespace ConfigResolver

/-! ## The format -/

/-- A path without what stands in front of its last name. -/
def LastName (path name : List Char) : Prop :=
  '/' ∉ name ∧ (path = name ∨ ∃ front, path = front ++ '/' :: name)

/-- The last name of the path goes on behind its last dot, which it does not start with. -/
def HasExtension (path ext : List Char) : Prop :=
  ∃ stem, stem ≠ [] ∧ '.' ∉ ext ∧ LastName path (stem ++ '.' :: ext)

theorem exists_lastName (path : List Char) : ∃ name, LastName path name := by
  rcases Text.exists_split (· == '/') path.reverse with hnone | ⟨back, c, front, hsplit, hback, hc⟩
  · refine ⟨path, fun hmem ↦ ?_, .inl rfl⟩
    simpa using hnone '/' (List.mem_reverse.2 hmem)
  · obtain rfl : c = '/' := by simpa using hc
    refine ⟨back.reverse, fun hmem ↦ ?_, .inr ⟨front.reverse, ?_⟩⟩
    · simpa using hback '/' (List.mem_reverse.1 hmem)
    · rw [← path.reverse_reverse, hsplit]
      simp

theorem getLastD_splitOn {path name : List Char} (h : LastName path name) :
    (path.splitOn '/').getLastD [] = name := by
  obtain ⟨hname, rfl | ⟨front, rfl⟩⟩ := h
  · rw [List.splitOn_eq_singleton hname]
    rfl
  · rw [List.splitOn_eq_splitOnP, List.splitOnP_append_cons _ _ (by simp),
      ← List.splitOn_eq_splitOnP, ← List.splitOn_eq_splitOnP, List.splitOn_eq_singleton hname]
    simp

theorem lastName_iff {path name : List Char} :
    LastName path name ↔ (path.splitOn '/').getLastD [] = name := by
  refine ⟨getLastD_splitOn, ?_⟩
  rintro rfl
  obtain ⟨name, h⟩ := exists_lastName path
  rwa [getLastD_splitOn h]

theorem forall_bne_of_notMem {cs : List Char} {c : Char} (h : c ∉ cs) :
    ∀ d ∈ cs, (d != c) = true := by
  intro d hd
  rw [bne_iff_ne]
  rintro rfl
  exact h hd

theorem extension?_of_split {back front : List Char} (hback : '.' ∉ back) :
    extension? (front.reverse ++ '.' :: back.reverse) =
      if front = [] then none else some back.reverse := by
  have hspan : (front.reverse ++ '.' :: back.reverse).reverse.span (· != '.') =
      (back, '.' :: front) := by
    rw [List.span_eq_takeWhile_dropWhile]
    simp only [List.reverse_append, List.reverse_cons, List.reverse_reverse, List.append_assoc,
      List.singleton_append]
    rw [Text.takeWhile_of_split (forall_bne_of_notMem hback) rfl,
      Text.dropWhile_of_split (forall_bne_of_notMem hback) rfl]
  unfold extension?
  rw [hspan]
  cases front <;> rfl

theorem extension?_of_no_dot {name : List Char} (h : '.' ∉ name) : extension? name = none := by
  have hchars : ∀ c ∈ name.reverse, (c != '.') = true :=
    forall_bne_of_notMem (mt List.mem_reverse.1 h)
  have hspan : name.reverse.span (· != '.') = (name.reverse, []) := by
    rw [List.span_eq_takeWhile_dropWhile, List.takeWhile_eq_self_iff.2 hchars,
      List.dropWhile_eq_nil_iff.2 hchars]
  unfold extension?
  rw [hspan]

/-- A name is taken apart at its last dot. -/
theorem extension?_eq_some_iff {name ext : List Char} :
    extension? name = some ext ↔ ∃ stem, stem ≠ [] ∧ '.' ∉ ext ∧ name = stem ++ '.' :: ext := by
  constructor
  · intro h
    rcases Text.exists_split (· == '.') name.reverse with
      hnone | ⟨back, c, front, hsplit, hback, hc⟩
    · have hdot : '.' ∉ name := fun hmem ↦ by simpa using hnone '.' (List.mem_reverse.2 hmem)
      rw [extension?_of_no_dot hdot] at h
      cases h
    · obtain rfl : c = '.' := by simpa using hc
      have hdot : '.' ∉ back := fun hmem ↦ by simpa using hback '.' hmem
      have hname : name = front.reverse ++ '.' :: back.reverse := by
        rw [← name.reverse_reverse, hsplit]
        simp
      rw [hname, extension?_of_split hdot] at h
      split at h
      · cases h
      · next hfront =>
        obtain rfl := Option.some.inj h
        exact ⟨front.reverse, by simpa using hfront, by simpa using hdot, hname⟩
  · rintro ⟨stem, hstem, hext, rfl⟩
    have h : extension? (stem.reverse.reverse ++ '.' :: ext.reverse.reverse) = _ :=
      extension?_of_split (by simpa using hext)
    simpa [hstem] using h

theorem Format.ofPath_eq_json_iff (path : String) :
    ofPath path = .json ↔
      ∃ ext, HasExtension path.toList ext ∧ ext.map Char.toLower = ['j', 's', 'o', 'n'] := by
  have hext : ∀ ext, extension? ((path.toList.splitOn '/').getLastD []) = some ext ↔
      HasExtension path.toList ext := by
    intro ext
    rw [extension?_eq_some_iff]
    simp only [HasExtension, lastName_iff]
  simp only [← hext]
  unfold ofPath
  simp

/-! ## Texts without a document -/

theorem Json.readValue_vacant {text : List Char} (h : Yaml.Vacant text) (depth fuel : Nat) :
    readValue depth text (fuel + 1) = (malformed "a value", none) := by
  have hhead := List.head?_dropWhile_not isSpace text
  unfold readValue
  cases hskip : skip text with
  | nil => rfl
  | cons c rest =>
    have hspace : isSpace c = false := by
      rw [← skip, hskip] at hhead
      exact hhead
    have hmem : c ∈ text := by
      have hsuffix : skip text <:+ text := List.dropWhile_suffix isSpace
      exact hsuffix.subset (hskip ▸ List.mem_cons_self)
    -- what ends a line in YAML only starts no value
    rcases h c hmem with rfl | hbreak
    · cases hspace
    · rcases Yaml.isBreak_iff.1 hbreak with rfl | rfl | hval | hval | hval
      · cases hspace
      · cases hspace
      · obtain rfl : c = '\u0085' := Char.ext hval
        rfl
      · obtain rfl : c = '\u2028' := Char.ext hval
        rfl
      · obtain rfl : c = '\u2029' := Char.ext hval
        rfl

/-- A text of nothing but spaces and ends of lines has no value. -/
theorem Json.read_vacant {text : List Char} (h : Yaml.Vacant text) :
    Json.read text = ⟨malformed "a value", none⟩ := by
  rw [read, readValue_vacant h]

/-- In YAML such a text is null. -/
theorem Format.load_yaml_vacant {text : List Char} (h : Yaml.Vacant text) :
    Format.load .yaml (String.ofList text) = .ok .null := by
  rw [load, parse, String.toList_ofList, Yaml.read_vacant h]
  rfl

/-- In JSON it has a fault. -/
theorem Format.load_json_vacant {text : List Char} (h : Yaml.Vacant text) :
    Format.load .json (String.ofList text) = .error (.parse "did not find a value") := by
  rw [load, parse, String.toList_ofList, Json.read_vacant h]
  rfl

/-! ## Files -/

theorem Text.Utf8.decode?_eq_some_nil {bytes : List UInt8} :
    decode? bytes = some [] ↔ bytes = [] := by
  constructor
  · intro h
    cases bytes with
    | nil => rfl
    | cons b rest =>
      rw [decode?, read_cons, List.mapM_cons] at h
      simp [Option.bind_eq_some_iff] at h
  · rintro rfl
    rw [decode?, read_nil]
    rfl

/-- Each error that loading a text ends with is about the text. -/
theorem Format.kind_of_load {format : Format} {text : String} {e : Error}
    (h : format.load text = .error e) : e.kind = .parse := by
  unfold load at h
  cases hparse : format.parse text.toList with
  | ok v =>
    rw [hparse] at h
    cases h
  | error fault =>
    rw [hparse] at h
    cases h
    exact fault.kind_toError

namespace Loading

variable {files : Files} {path : String} {bytes : List UInt8} {text : List Char}

/-- Where the text of a file can be read, it is loaded. -/
theorem load_eq_ofText (hread : files.read path = .ok bytes)
    (htext : Text.Utf8.decode? bytes = some text) :
    files.load path = ofText path (String.ofList text) := by
  rw [Files.load, hread]
  unfold ofBytes
  simp only [Except.mapError, bind, Except.bind, htext]

theorem ofText_nil (path : String) : ofText path (String.ofList []) = .error (.sourceEmpty path) :=
  rfl

theorem ofText_of_ok {v : Value} (hne : text ≠ [])
    (h : (Format.ofPath path).load (String.ofList text) = .ok v) :
    ofText path (String.ofList text) =
      if v.isNull then .error (.sourceEmpty path) else .ok v := by
  have hempty : (String.ofList text).isEmpty = false := by simpa
  rw [ofText, hempty, h]
  rfl

theorem ofText_of_error {e : Error} (hne : text ≠ [])
    (h : (Format.ofPath path).load (String.ofList text) = .error e) :
    ofText path (String.ofList text) = .error (inFile path e) := by
  have hempty : (String.ofList text).isEmpty = false := by simpa
  rw [ofText, hempty, h]
  rfl

/-- Loading a text of a file in the format of the file ends in one of four ways. -/
theorem ofText_cases (path : String) (text : List Char) :
    let loaded := (Format.ofPath path).load (String.ofList text)
    let out := ofText path (String.ofList text)
    (text = [] ∧ out = .error (.sourceEmpty path)) ∨
      (text ≠ [] ∧ loaded = .ok .null ∧ out = .error (.sourceEmpty path)) ∨
      (text ≠ [] ∧ ∃ v, v ≠ .null ∧ loaded = .ok v ∧ out = .ok v) ∨
      text ≠ [] ∧ ∃ e, e.kind = .parse ∧ loaded = .error e ∧ out = .error (inFile path e) := by
  intro loaded out
  by_cases hne : text = []
  · subst hne
    exact .inl ⟨rfl, ofText_nil path⟩
  · cases hloaded : loaded with
    | error e =>
      exact .inr (.inr (.inr
        ⟨hne, e, Format.kind_of_load hloaded, rfl, ofText_of_error hne hloaded⟩))
    | ok v =>
      have hout : out = _ := ofText_of_ok hne hloaded
      cases v with
      | null => exact .inr (.inl ⟨hne, rfl, hout⟩)
      | bool _ | integer _ | float _ | string _ | sequence _ | mapping _ =>
        exact .inr (.inr (.inl ⟨hne, _, by simp, rfl, hout⟩))

theorem sourceEmpty_ne_of_parse {e : Error} (h : e.kind = .parse) (path : String) :
    e ≠ .sourceEmpty path := by
  rintro rfl
  cases h

theorem ofText_eq_sourceEmpty_iff : ofText path (String.ofList text) = .error (.sourceEmpty path) ↔
    text = [] ∨ (Format.ofPath path).load (String.ofList text) = .ok .null := by
  rcases ofText_cases path text with
    ⟨rfl, hout⟩ | ⟨hne, hloaded, hout⟩ | ⟨hne, v, hv, hloaded, hout⟩ |
      ⟨hne, e, hkind, hloaded, hout⟩
  · simp [hout]
  · simp [hout, hloaded]
  · simp [hout, hloaded, hne, hv]
  · simp [hout, hloaded, hne, sourceEmpty_ne_of_parse (e := inFile path e) hkind]

theorem ofText_eq_ok_iff {v : Value} : ofText path (String.ofList text) = .ok v ↔
    text ≠ [] ∧ v ≠ .null ∧ (Format.ofPath path).load (String.ofList text) = .ok v := by
  rcases ofText_cases path text with
    ⟨rfl, hout⟩ | ⟨hne, hloaded, hout⟩ | ⟨hne, w, hw, hloaded, hout⟩ |
      ⟨hne, e, hkind, hloaded, hout⟩
  · simp [hout]
  · simp [hout, hloaded, eq_comm]
  · rw [hout, hloaded, Except.ok.injEq]
    exact ⟨fun h ↦ ⟨hne, h ▸ hw, h⟩, fun h ↦ h.2.2⟩
  · simp [hout, hloaded]

/-- A fault of a text in a file is that of the text, at the same place but in this file. -/
theorem ofText_eq_parse_iff {e : Error} :
    ofText path (String.ofList text) = .error e ∧ e.kind = .parse ↔ text ≠ [] ∧
      ∃ e', (Format.ofPath path).load (String.ofList text) = .error e' ∧ e = inFile path e' := by
  have hempty : ¬ ((.error (.sourceEmpty path) : Except Error Value) = .error e ∧
      e.kind = .parse) :=
    fun ⟨h, hkind⟩ ↦ sourceEmpty_ne_of_parse hkind path (Except.error.inj h).symm
  rcases ofText_cases path text with
    ⟨rfl, hout⟩ | ⟨hne, hloaded, hout⟩ | ⟨hne, v, hv, hloaded, hout⟩ |
      ⟨hne, e', hkind, hloaded, hout⟩
  · rw [hout]
    exact iff_of_false hempty fun h ↦ h.1 rfl
  · rw [hout, hloaded]
    exact iff_of_false hempty fun ⟨_, _, h, _⟩ ↦ by cases h
  · rw [hout, hloaded]
    exact iff_of_false (fun ⟨h, _⟩ ↦ by cases h) fun ⟨_, _, h, _⟩ ↦ by cases h
  · rw [hout, hloaded]
    constructor
    · rintro ⟨⟨⟩, -⟩
      exact ⟨hne, e', rfl, rfl⟩
    · rintro ⟨-, _, ⟨⟩, rfl⟩
      exact ⟨rfl, hkind⟩

/-- A text of a file is refused as empty or for a fault, and for nothing else. -/
theorem ofText_error_cases {e : Error} (h : ofText path (String.ofList text) = .error e) :
    e = .sourceEmpty path ∨ e.kind = .parse := by
  rcases ofText_cases path text with
    ⟨-, hout⟩ | ⟨-, -, hout⟩ | ⟨-, v, -, -, hout⟩ | ⟨-, e', hkind, -, hout⟩
  · exact .inl (Except.error.inj (h.symm.trans hout))
  · exact .inl (Except.error.inj (h.symm.trans hout))
  · cases h.symm.trans hout
  · right
    rw [Except.error.inj (h.symm.trans hout)]
    exact hkind

/-- A file of nothing but spaces and ends of lines holds no document. Only in YAML it is empty. -/
theorem ofText_vacant (path : String) (h : Yaml.Vacant text) (hne : text ≠ []) :
    ofText path (String.ofList text) = .error (match Format.ofPath path with
      | .yaml => .sourceEmpty path
      | .json => inFile path (.parse "did not find a value")) := by
  cases hformat : Format.ofPath path with
  | yaml =>
    have hloaded := Format.load_yaml_vacant h
    rw [← hformat] at hloaded
    rw [ofText_of_ok hne hloaded]
    rfl
  | json =>
    have hloaded := Format.load_json_vacant h
    rw [← hformat] at hloaded
    rw [ofText_of_error hne hloaded]

/-- A file that can be read and holds UTF-8 is empty exactly if it has no bytes or its document is
null. Otherwise it comes to just what its text comes to in the format that the name tells, which is
JSON if the extension is `json` in any letter case and YAML if not: to the same document, which is
never null, or to the same error, with the same line and column but with the path of the file. A
text of nothing but spaces and ends of lines is null in YAML, so the file is empty; in JSON it has a
fault. -/
theorem load_empty_or_loaded (hread : files.read path = .ok bytes)
    (htext : Text.Utf8.decode? bytes = some text) :
    let format := Format.ofPath path
    let loaded := format.load (String.ofList text)
    let out := files.load path
    (format = .json ↔
      ∃ ext, HasExtension path.toList ext ∧ ext.map Char.toLower = ['j', 's', 'o', 'n']) ∧
    (out = .error (.sourceEmpty path) ↔ bytes = [] ∨ loaded = .ok .null) ∧
    (∀ v, out = .ok v ↔ bytes ≠ [] ∧ v ≠ .null ∧ loaded = .ok v) ∧
    (∀ e, out = .error e ∧ e.kind = .parse ↔ bytes ≠ [] ∧ ∃ e', loaded = .error e' ∧
      e = { e' with
        location := some ⟨path, e'.location.bind Location.line,
          e'.location.bind Location.column⟩ }) ∧
    (∀ e, out = .error e → e = .sourceEmpty path ∨ e.kind = .parse) ∧
    (Yaml.Vacant text →
      (format = .yaml → out = .error (.sourceEmpty path)) ∧
      (format = .json → bytes ≠ [] → ∃ e, out = .error e ∧ e.kind = .parse)) := by
  intro format loaded out
  have hout : out = ofText path (String.ofList text) := load_eq_ofText hread htext
  have hbytes : bytes = [] ↔ text = [] := by
    rw [← Text.Utf8.decode?_eq_some_nil, htext, Option.some.injEq]
  simp only [ne_eq, hbytes, hout]
  refine ⟨Format.ofPath_eq_json_iff path, ofText_eq_sourceEmpty_iff, fun v ↦ ofText_eq_ok_iff,
    fun e ↦ ofText_eq_parse_iff, fun e ↦ ofText_error_cases, fun hvacant ↦ ?_⟩
  by_cases hne : text = []
  · subst hne
    exact ⟨fun _ ↦ ofText_nil path, fun _ h ↦ absurd rfl h⟩
  · have hends := ofText_vacant path hvacant hne
    refine ⟨fun hyaml ↦ ?_, fun hjson _ ↦ ?_⟩
    · rwa [show Format.ofPath path = .yaml from hyaml] at hends
    · rw [show Format.ofPath path = .json from hjson] at hends
      exact ⟨_, hends, rfl⟩

/-- A file with a blank line and two kinds of ends of lines is YAML, so it is empty. -/
theorem load_empty_or_loaded_blank :
    let files : Files := ⟨[(["c", "d.json.x"], .file [0x20, 0x0D, 0x0A, 0x0A])]⟩
    files.read "c/d.json.x" = .ok [0x20, 0x0D, 0x0A, 0x0A] ∧
      files.load "c/d.json.x" = .error (.sourceEmpty "c/d.json.x") := by
  intro files
  have hread : files.read "c/d.json.x" = .ok [0x20, 0x0D, 0x0A, 0x0A] := by decide +kernel
  have htext : Text.Utf8.decode? [0x20, 0x0D, 0x0A, 0x0A] = some [' ', '\r', '\n', '\n'] := by
    simp [Text.Utf8.decode?, Text.Utf8.read_cons, Text.Utf8.readChar]
  have hvacant : Yaml.Vacant [' ', '\r', '\n', '\n'] :=
    .cons (.inl rfl) (.cons (.inr rfl) (.cons (.inr rfl) (.cons (.inr rfl) .nil)))
  obtain ⟨-, -, -, -, -, hblank⟩ := load_empty_or_loaded hread htext
  exact ⟨hread, (hblank hvacant).1 (by decide +kernel)⟩

/-- A file with a blank line that is JSON is not empty. -/
theorem load_blank_json :
    let files : Files := ⟨[(["c.json"], .file [0x20, 0x0A])]⟩
    files.read "c.json" = .ok [0x20, 0x0A] ∧
      Text.Utf8.decode? [0x20, 0x0A] = some [' ', '\n'] ∧
      files.load "c.json" ≠ .error (.sourceEmpty "c.json") := by
  intro files
  have hread : files.read "c.json" = .ok [0x20, 0x0A] := by decide +kernel
  have htext : Text.Utf8.decode? [0x20, 0x0A] = some [' ', '\n'] := by
    simp [Text.Utf8.decode?, Text.Utf8.read_cons, Text.Utf8.readChar]
  have hvacant : Yaml.Vacant [' ', '\n'] := .cons (.inl rfl) (.cons (.inr rfl) .nil)
  have hformat : Format.ofPath "c.json" = .json := by decide +kernel
  refine ⟨hread, htext, ?_⟩
  rw [load_eq_ofText hread htext, ofText_vacant "c.json" hvacant (by simp), hformat]
  exact fun h ↦ sourceEmpty_ne_of_parse rfl "c.json" (Except.error.inj h)

end Loading

end ConfigResolver
