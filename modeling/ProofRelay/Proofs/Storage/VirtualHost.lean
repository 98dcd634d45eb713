import Mathlib.Data.List.TakeWhile
import ProofRelay.Proofs.Storage.ObjectUrl

/-!
# Hosts named for the bucket

An operator writes the address of a storage service as a host, with or without a scheme in front
and a port behind it.  Objects are then found under a host that is named for the bucket, by the
same scheme and at the same port; without a scheme it is `https`.

An address without a scheme is read in the same way as one with a scheme, and the colon in front of
a port ends a scheme as well.  A host that begins with a letter is therefore taken for a scheme when
it has a port and no scheme stands before it, and the port is taken for the host.

## Main definitions

* `HostAddress` : a host with a scheme and a port, as it is written.
* `HostAddress.IsMistaken` : where the host is taken for a scheme.

## Main results

* `Endpoint.read_of_scheme`, `Endpoint.read_of_place` : how such addresses are read.
* `StorageSettings.objectUrl_virtualHosted` : the address of an object of such a service.
-/

namespace ProofRelay

open ProofRelay.Text

/-! ### Addresses as they are written -/

/-- The characters of a host name. -/
def isHostChar (c : Char) : Bool :=
  c.isAlphanum || c == '.' || c == '-'

/-- A scheme in front of a host. -/
inductive HostScheme where
  /-- The plain protocol. -/
  | http
  /-- The protected protocol. -/
  | https
  deriving DecidableEq, Repr

/-- How a scheme is written. -/
def HostScheme.text : HostScheme → String
  | http => "http"
  | https => "https"

/-- A host, which may have a scheme and a port. -/
structure HostAddress where
  /-- The scheme. -/
  scheme : Option HostScheme
  /-- The name of the host. -/
  host : List Char
  /-- The port. -/
  port : Option (List Char)
  /-- There is a host. -/
  host_ne : host ≠ []
  /-- The characters of its name. -/
  isHostChar_of_mem : ∀ c ∈ host, isHostChar c = true
  /-- The characters of the port. -/
  isDigit_of_mem : ∀ p ∈ port, ∀ c ∈ p, c.isDigit = true

namespace HostAddress

variable (a : HostAddress)

/-- The host with its port. -/
def place : List Char :=
  match a.port with
  | none => a.host
  | some p => a.host ++ ':' :: p

/-- The whole address. -/
def written : String :=
  match a.scheme with
  | none => String.ofList a.place
  | some scheme => String.ofList (scheme.text.toList ++ ':' :: '/' :: '/' :: a.place)

/-- Whether the host is taken for a scheme: it begins with a letter, a port follows it, and no
scheme stands before it. -/
def IsMistaken : Prop :=
  a.scheme = none ∧ a.port ≠ none ∧ a.host.head?.any Char.isAlpha = true

end HostAddress

/-! ### Characters -/

theorem toNat_lt_of_isAlphanum {c : Char} (h : c.isAlphanum = true) : c.toNat < 0x80 := by
  change ((decide ('A'.val ≤ c.val ∧ c.val ≤ 'Z'.val) ||
    (decide ('a'.val ≤ c.val) && decide (c.val ≤ 'z'.val))) ||
      (decide ('0'.val ≤ c.val) && decide (c.val ≤ '9'.val))) = true at h
  simp only [Bool.or_eq_true, Bool.and_eq_true, decide_eq_true_eq, UInt32.le_iff_toNat_le] at h
  have code : c.toNat = c.val.toNat := rfl
  have upper : 'Z'.val.toNat = 0x5a := rfl
  have lower : 'z'.val.toNat = 0x7a := rfl
  have digit : '9'.val.toNat = 0x39 := rfl
  omega

namespace Endpoint

/-- The characters of a host with a port. -/
def IsPlaceChar (c : Char) : Prop :=
  isHostChar c = true ∨ c = ':'

instance (c : Char) : Decidable (IsPlaceChar c) :=
  inferInstanceAs (Decidable (_ ∨ _))

theorem toNat_lt_of_isHostChar {c : Char} (h : isHostChar c = true) : c.toNat < 0x80 := by
  simp only [isHostChar, Bool.or_eq_true, beq_iff_eq] at h
  obtain (h | rfl) | rfl := h
  · exact toNat_lt_of_isAlphanum h
  all_goals decide

theorem toNat_lt_of_isPlaceChar {c : Char} (h : IsPlaceChar c) : c.toNat < 0x80 := by
  obtain h | rfl := h
  · exact toNat_lt_of_isHostChar h
  · decide

/-- The characters of a host with a port are no marks of an address. -/
theorem not_mark_of_isPlaceChar {c : Char} (h : IsPlaceChar c) :
    isControlOrSpace c = false ∧ isLineControl c = false ∧ endsAuthority c = false ∧
      c ≠ '[' ∧ c ≠ ']' := by
  have all : ∀ n : Fin 0x80, IsPlaceChar (Char.ofNat n) →
      isControlOrSpace (Char.ofNat n) = false ∧ isLineControl (Char.ofNat n) = false ∧
        endsAuthority (Char.ofNat n) = false ∧ Char.ofNat n ≠ '[' ∧ Char.ofNat n ≠ ']' := by
    decide
  have here := all ⟨c.toNat, toNat_lt_of_isPlaceChar h⟩
  rw [Char.ofNat_toNat] at here
  exact here h

/-- The letters of a scheme could stand in a host. -/
theorem isHostChar_of_mem_text (scheme : HostScheme) :
    ∀ c ∈ scheme.text.toList, isHostChar c = true :=
  List.all_eq_true.mp (by cases scheme <;> decide)

/-- The characters of a host are characters of a scheme, and none is a colon. -/
theorem isSchemeChar_of_isHostChar {c : Char} (h : isHostChar c = true) :
    isSchemeChar c = true ∧ c ≠ ':' := by
  have all : ∀ n : Fin 0x80, isHostChar (Char.ofNat n) = true →
      isSchemeChar (Char.ofNat n) = true ∧ Char.ofNat n ≠ ':' := by decide
  have here := all ⟨c.toNat, toNat_lt_of_isHostChar h⟩
  rw [Char.ofNat_toNat] at here
  exact here h

/-! ### Reading addresses -/

variable {s place rest : List Char}

/-- Nothing is dropped from a text without controls and blanks. -/
theorem cleaned_eq_self
    (h : ∀ c ∈ s, isControlOrSpace c = false ∧ isLineControl c = false) : cleaned s = s := by
  have start : s.dropWhile isControlOrSpace = s := by
    cases s with
    | nil => rfl
    | cons c s => rw [List.dropWhile_cons_of_neg (by simp [h c List.mem_cons_self])]
  rw [cleaned, start, List.filter_eq_self]
  exact fun c hc => by rw [(h c hc).2]; rfl

/-- The first colon of a text. -/
theorem atColon?_append (h : ':' ∉ s) (rest : List Char) :
    atColon? (s ++ ':' :: rest) = some (s, rest) := by
  have apart : ∀ c ∈ s, decide (c ≠ ':') = true := by
    intro c hc
    rw [decide_eq_true_eq]
    rintro rfl
    exact h hc
  rw [atColon?, List.dropWhile_append_of_pos apart, List.takeWhile_append_of_pos apart,
    List.dropWhile_cons_of_neg (by simp), List.takeWhile_cons_of_neg (by simp), List.append_nil]

theorem atColon?_of_not_mem (h : ':' ∉ s) : atColon? s = none := by
  have none_left : s.dropWhile (· ≠ ':') = [] := by
    rw [List.dropWhile_eq_nil_iff]
    intro c hc
    rw [decide_eq_true_eq]
    rintro rfl
    exact h hc
  rw [atColon?, none_left]

/-- What stands in front of a colon is a scheme if it begins with a letter. -/
theorem splitScheme_of_isAlpha {c : Char} {cs : List Char} (letter : c.isAlpha = true)
    (chars : ∀ d ∈ c :: cs, isSchemeChar d = true ∧ d ≠ ':') (rest : List Char) :
    splitScheme ((c :: cs) ++ ':' :: rest) = ((c :: cs).map Char.toLower, rest) := by
  have whole : ':' ∉ c :: cs := fun h => (chars ':' h).2 rfl
  have all : (c :: cs).all isSchemeChar = true := List.all_eq_true.mpr fun d hd => (chars d hd).1
  rw [splitScheme, atColon?_append whole]
  dsimp only
  rw [letter, all, Bool.true_and, if_pos rfl]

/-- What begins with no letter has no scheme. -/
theorem splitScheme_of_not_isAlpha {c : Char} (other : c.isAlpha = false) (cs : List Char) :
    splitScheme (c :: cs) = ([], c :: cs) := by
  rw [splitScheme]
  split
  · next d ds rest found =>
    have first : d = c := by
      rw [atColon?] at found
      split at found
      · cases found
      · have split_ := (Prod.mk.inj (Option.some.inj found)).1
        by_cases colon : c = ':'
        · rw [List.takeWhile_cons_of_neg (by simp [colon])] at split_
          cases split_
        · rw [List.takeWhile_cons_of_pos (by simp [colon])] at split_
          exact (List.cons.inj split_).1.symm
    rw [first, other, Bool.false_and, if_neg Bool.false_ne_true]
  · rfl

theorem splitScheme_of_not_mem (h : ':' ∉ s) : splitScheme s = ([], s) := by
  rw [splitScheme, atColon?_of_not_mem h]

/-- Two slashes lead to a host. -/
theorem splitAuthority_slashes (h : ∀ c ∈ place, IsPlaceChar c) :
    splitAuthority ('/' :: '/' :: place) = (place, []) := by
  have inside : ∀ c ∈ place, (!endsAuthority c) = true := fun c hc => by
    rw [(not_mark_of_isPlaceChar (h c hc)).2.2.1]
    rfl
  rw [splitAuthority, List.takeWhile_eq_self_iff.mpr inside, List.dropWhile_eq_nil_iff.mpr inside]

/-- A host by itself is no authority. -/
theorem splitAuthority_place (h : ∀ c ∈ place, IsPlaceChar c) :
    splitAuthority place = ([], place) := by
  rw [splitAuthority.eq_def]
  split
  · next s => exact absurd (h '/' List.mem_cons_self) (by decide)
  · rfl

/-- A host by itself is a path. -/
theorem pathOf_place (h : ∀ c ∈ place, IsPlaceChar c) : pathOf place = place := by
  have apart : ∀ mark, endsAuthority mark = true → ∀ c ∈ place, decide (c ≠ mark) = true := by
    intro mark ends c hc
    rw [decide_eq_true_eq]
    rintro rfl
    rw [(not_mark_of_isPlaceChar (h _ hc)).2.2.1] at ends
    cases ends
  rw [pathOf, List.takeWhile_eq_self_iff.mpr (apart '#' rfl),
    List.takeWhile_eq_self_iff.mpr (apart '?' rfl)]

/-- A host passes the checks of an authority. -/
theorem checks_of_place (h : ∀ c ∈ place, IsPlaceChar c) :
    checkAuthority place = .ok () ∧ checkMarks place = .ok () := by
  have opened : place.contains '[' = false := by
    rw [List.contains_eq_mem, decide_eq_false_iff_not]
    exact fun hc => (not_mark_of_isPlaceChar (h _ hc)).2.2.2.1 rfl
  have closed : place.contains ']' = false := by
    rw [List.contains_eq_mem, decide_eq_false_iff_not]
    exact fun hc => (not_mark_of_isPlaceChar (h _ hc)).2.2.2.2 rfl
  have undisguised : (place.any fun c => disguisedMarks.contains c.toNat) = false := by
    rw [List.any_eq_false]
    intro c hc mem
    have least : ∀ n ∈ disguisedMarks, 0x80 ≤ n := by decide
    have bound := toNat_lt_of_isPlaceChar (h c hc)
    rw [List.contains_iff_mem] at mem
    have := least _ mem
    omega
  constructor
  · rw [checkAuthority]
    simp only [opened, closed]
    rfl
  · rw [checkMarks, undisguised, if_neg Bool.false_ne_true]

/-- How an address is read from its scheme, its authority and its path. -/
theorem read_eq {scheme authority path : List Char}
    (clean : ∀ c ∈ s, isControlOrSpace c = false ∧ isLineControl c = false)
    (first : splitScheme s = (scheme, rest)) (second : splitAuthority rest = (authority, path))
    (host : ∀ c ∈ authority, IsPlaceChar c) (third : ∀ c ∈ path, IsPlaceChar c) :
    read (String.ofList s) =
      .ok ⟨String.ofList scheme, String.ofList authority, String.ofList path⟩ := by
  obtain ⟨brackets, marks⟩ := checks_of_place host
  rw [read, String.toList_ofList, cleaned_eq_self clean, first]
  simp only [second, brackets, marks, pathOf_place third]
  rfl

theorem clean_of_place (h : ∀ c ∈ place, IsPlaceChar c) :
    ∀ c ∈ place, isControlOrSpace c = false ∧ isLineControl c = false :=
  fun c hc => ⟨(not_mark_of_isPlaceChar (h c hc)).1, (not_mark_of_isPlaceChar (h c hc)).2.1⟩

/-- Behind a scheme and two slashes a host is the authority. -/
theorem read_of_scheme (scheme : HostScheme) (h : ∀ c ∈ place, IsPlaceChar c) :
    read (String.ofList (scheme.text.toList ++ ':' :: '/' :: '/' :: place)) =
      .ok ⟨scheme.text, String.ofList place, ""⟩ := by
  have clean : ∀ c ∈ scheme.text.toList ++ ':' :: '/' :: '/' :: place,
      isControlOrSpace c = false ∧ isLineControl c = false := by
    simp only [List.forall_mem_append, List.forall_mem_cons]
    exact ⟨clean_of_place fun c hc => .inl (isHostChar_of_mem_text scheme c hc),
      by decide, by decide, by decide, clean_of_place h⟩
  have chars : ∀ c ∈ scheme.text.toList, isSchemeChar c = true ∧ c ≠ ':' := fun c hc =>
    isSchemeChar_of_isHostChar (isHostChar_of_mem_text scheme c hc)
  have split_ : splitScheme (scheme.text.toList ++ ':' :: '/' :: '/' :: place) =
      (scheme.text.toList, '/' :: '/' :: place) := by
    cases scheme
    · exact @splitScheme_of_isAlpha 'h' ['t', 't', 'p'] rfl chars _
    · exact @splitScheme_of_isAlpha 'h' ['t', 't', 'p', 's'] rfl chars _
  rw [read_eq clean split_ (splitAuthority_slashes h) h (by simp), String.ofList_toList]

/-- Without a scheme and slashes a host is the path. -/
theorem read_of_place (h : ∀ c ∈ place, IsPlaceChar c) (bare : splitScheme place = ([], place)) :
    read (String.ofList place) = .ok ⟨"", "", String.ofList place⟩ :=
  read_eq (clean_of_place h) bare (splitAuthority_place h) (by simp) h

/-- A host that begins with a letter is taken for a scheme when a colon follows it. -/
theorem read_of_letter {c : Char} {cs port : List Char} (letter : c.isAlpha = true)
    (chars : ∀ d ∈ c :: cs, isHostChar d = true) (digits : ∀ d ∈ port, IsPlaceChar d) :
    read (String.ofList ((c :: cs) ++ ':' :: port)) =
      .ok ⟨String.ofList ((c :: cs).map Char.toLower), "", String.ofList port⟩ := by
  have whole : ∀ d ∈ (c :: cs) ++ ':' :: port, IsPlaceChar d := by
    simp only [List.forall_mem_append, List.forall_mem_cons (p := IsPlaceChar) (a := ':')]
    exact ⟨fun d hd => .inl (chars d hd), .inr rfl, digits⟩
  exact read_eq (clean_of_place whole)
    (splitScheme_of_isAlpha letter (fun d hd => isSchemeChar_of_isHostChar (chars d hd)) port)
    (splitAuthority_place digits) (by simp) digits

end Endpoint

/-! ### Addresses of objects -/

namespace HostAddress

variable (a : HostAddress)

theorem place_ne : a.place ≠ [] := by
  rw [place]
  split
  · exact a.host_ne
  · exact List.append_ne_nil_of_right_ne_nil _ (List.cons_ne_nil _ _)

theorem isPlaceChar_of_mem_port {p : List Char} (h : p ∈ a.port) :
    ∀ c ∈ p, Endpoint.IsPlaceChar c := by
  intro c hc
  refine .inl ?_
  rw [isHostChar, Char.isAlphanum, a.isDigit_of_mem p h c hc, Bool.or_true]
  rfl

theorem isPlaceChar_of_mem : ∀ c ∈ a.place, Endpoint.IsPlaceChar c := by
  have host : ∀ c ∈ a.host, Endpoint.IsPlaceChar c := fun c hc => .inl (a.isHostChar_of_mem c hc)
  rw [place]
  split
  · exact host
  · next p found =>
    rw [List.forall_mem_append, List.forall_mem_cons]
    exact ⟨host, .inr rfl, a.isPlaceChar_of_mem_port found⟩

/-- The host is the path of an address without a scheme, unless it is taken for one. -/
theorem splitScheme_place (bare : a.scheme = none) (sound : ¬ a.IsMistaken) :
    Endpoint.splitScheme a.place = ([], a.place) := by
  have colonless : ':' ∉ a.host := fun h =>
    (Endpoint.isSchemeChar_of_isHostChar (a.isHostChar_of_mem _ h)).2 rfl
  obtain ⟨c, cs, begins⟩ := List.exists_cons_of_ne_nil a.host_ne
  rw [place]
  split
  · exact Endpoint.splitScheme_of_not_mem colonless
  · next p found =>
    have other : c.isAlpha = false := by
      rw [Bool.eq_false_iff]
      intro letter
      exact sound ⟨bare, by rw [found]; nofun, by rw [begins]; exact letter⟩
    rw [begins]
    exact Endpoint.splitScheme_of_not_isAlpha other _

/-- The scheme of the objects' addresses: the one that is written, or `https`. -/
def shownScheme : HostScheme :=
  a.scheme.getD .https

/-- An address that is not mistaken is read with its host and its scheme. -/
theorem underHost_of_not_isMistaken (bucket : String) (sound : ¬ a.IsMistaken) :
    (Endpoint.read a.written).map (StorageSettings.underHost bucket) =
      .ok (a.shownScheme.text ++ "://" ++ bucket ++ "." ++ String.ofList a.place ++ "/") := by
  have there : (String.ofList a.place).isEmpty = false := by
    rw [Bool.eq_false_iff, Ne, String.isEmpty_iff, String.ofList_eq_empty_iff]
    exact a.place_ne
  rw [written, shownScheme]
  split
  · next bare =>
    rw [Endpoint.read_of_place a.isPlaceChar_of_mem (a.splitScheme_place bare sound), bare]
    rfl
  · next scheme found =>
    rw [Endpoint.read_of_scheme scheme a.isPlaceChar_of_mem, found, Except.map,
      StorageSettings.underHost, there]
    cases scheme <;> rfl

/-- An address whose host is taken for a scheme is read with the port as its host. -/
theorem underHost_of_isMistaken (bucket : String) (mistaken : a.IsMistaken) :
    (Endpoint.read a.written).map (StorageSettings.underHost bucket) =
      .ok (String.ofList (a.host.map Char.toLower) ++ "://" ++ bucket ++ "." ++
        String.ofList (a.port.getD []) ++ "/") := by
  obtain ⟨bare, ported, letter⟩ := mistaken
  obtain ⟨p, found⟩ := Option.ne_none_iff_exists'.mp ported
  obtain ⟨c, cs, begins⟩ := List.exists_cons_of_ne_nil a.host_ne
  have chars := a.isHostChar_of_mem
  rw [begins] at letter chars
  have there : (String.ofList ((c :: cs).map Char.toLower)).isEmpty = false := by
    rw [Bool.eq_false_iff, Ne, String.isEmpty_iff, String.ofList_eq_empty_iff]
    exact List.cons_ne_nil _ _
  have read := Endpoint.read_of_letter letter chars (a.isPlaceChar_of_mem_port found)
  rw [written, bare, place, found, begins]
  dsimp only
  rw [read, Except.map, StorageSettings.underHost, there]
  rfl

theorem written_ne : a.written ≠ "" := by
  rw [written]
  split <;> rw [Ne, String.ofList_eq_empty_iff]
  · exact a.place_ne
  · exact List.append_ne_nil_of_right_ne_nil _ (List.cons_ne_nil _ _)

end HostAddress

namespace StorageSettings

variable {s : StorageSettings} {a : HostAddress}

/-- The first part of addresses, where the service's address is a text that is not empty. -/
theorem urlBase_of_endpoint {text : String} (hidden : s.publicUrl.given? = none)
    (set : s.endpoint = .str text) (there : text ≠ "") :
    s.urlBase = (Endpoint.read text).map (underHost s.bucket.shown) := by
  have given : s.endpoint.given? = some (.str text) := by
    rw [set, Json.given?, if_neg]
    rwa [Json.isFalsy, String.isEmpty_iff]
  rw [urlBase, hidden, given]
  rfl

/-- Objects of a service have their addresses under a host that is named for the bucket, by the
scheme that is written for the service or `https`, with its host and port; but where the host is
taken for a scheme, they have it by that scheme and with the port for a host. -/
theorem objectUrl_virtualHosted (hidden : s.publicUrl.given? = none)
    (set : s.endpoint = .str a.written) (key : String) :
    (¬ a.IsMistaken → s.objectUrl key =
      .ok (a.shownScheme.text ++ "://" ++ s.bucket.shown ++ "." ++ String.ofList a.place ++ "/" ++
        String.ofList (Percent.encode key.toList))) ∧
    (a.IsMistaken → s.objectUrl key =
      .ok (String.ofList (a.host.map Char.toLower) ++ "://" ++ s.bucket.shown ++ "." ++
        String.ofList (a.port.getD []) ++ "/" ++ String.ofList (Percent.encode key.toList))) := by
  have base := urlBase_of_endpoint hidden set a.written_ne
  refine ⟨fun sound => objectUrl_of_urlBase ?_ key, fun mistaken => objectUrl_of_urlBase ?_ key⟩
  · rw [base, a.underHost_of_not_isMistaken _ sound]
  · rw [base, a.underHost_of_isMistaken _ mistaken]

/-- The address of a service on this machine, with a scheme or without one. -/
def localService (scheme : Option HostScheme) : HostAddress where
  scheme := scheme
  host := "localhost".toList
  port := some "9000".toList
  host_ne := by decide
  isHostChar_of_mem := List.all_eq_true.mp (by decide)
  isDigit_of_mem := by
    rintro _ ⟨⟩
    exact List.all_eq_true.mp (by decide)

/-- Settings for a service. -/
def settingsAt (address : String) : StorageSettings :=
  { Settings.standardStorage with endpoint := .str address }

theorem objectUrl_virtualHosted_sample :
    ((localService (some .http)).written = "http://localhost:9000" ∧
      ¬ (localService (some .http)).IsMistaken ∧
      (settingsAt "http://localhost:9000").objectUrl "w 1.json" =
        .ok "http://gevulot.localhost:9000/w%201.json") ∧
    (localService none).written = "localhost:9000" ∧ (localService none).IsMistaken ∧
      (settingsAt "localhost:9000").objectUrl "w 1.json" =
        .ok "localhost://gevulot.9000/w%201.json" := by
  have schemed : (localService (some .http)).written = "http://localhost:9000" := by decide
  have bare : (localService none).written = "localhost:9000" := by decide
  have sound : ¬ (localService (some .http)).IsMistaken := fun h => absurd h.1 (by decide)
  have mistaken : (localService none).IsMistaken := ⟨rfl, by decide, by decide⟩
  refine ⟨⟨schemed, sound, ?_⟩, bare, mistaken, ?_⟩
  · have url := (objectUrl_virtualHosted (s := settingsAt "http://localhost:9000") rfl
      (congrArg Json.str schemed.symm) "w 1.json").1 sound
    exact url.trans (congrArg Except.ok (by decide +kernel))
  · have url := (objectUrl_virtualHosted (s := settingsAt "localhost:9000") rfl
      (congrArg Json.str bare.symm) "w 1.json").2 mistaken
    exact url.trans (congrArg Except.ok (by decide +kernel))

/-- Without a scheme, a host with a port is not found in the addresses of objects: the host is
taken for a scheme and the port for the host. -/
theorem host_taken_for_scheme :
    (localService none).scheme = none ∧ (localService none).written = "localhost:9000" ∧
      (settingsAt "localhost:9000").objectUrl "w.json" = .ok "localhost://gevulot.9000/w.json" ∧
      (settingsAt "localhost:9000").objectUrl "w.json" ≠
        .ok "https://gevulot.localhost:9000/w.json" := by
  have url : (settingsAt "localhost:9000").objectUrl "w.json" =
      .ok "localhost://gevulot.9000/w.json" := by
    rfl
  refine ⟨rfl, by decide, url, ?_⟩
  rw [url]
  decide

end StorageSettings

end ProofRelay
