import BatchClassifier.CommandLine.Parse
import BatchClassifier.Proofs.Basic

namespace BatchClassifier.CommandLine

def Unmarked (text : String) : Prop := text.toList.head? ≠ some '-'

instance (text : String) : Decidable (Unmarked text) :=
  inferInstanceAs (Decidable (text.toList.head? ≠ some '-'))

inductive Spelled (flag : Flag) : Option String → List String → Prop
  | short : Spelled flag none [flag.short]
  | long : Spelled flag none [flag.long]
  | shortNext {value : String} (h : Unmarked value) : Spelled flag (some value) [flag.short, value]
  | longNext {value : String} (h : Unmarked value) : Spelled flag (some value) [flag.long, value]
  | shortJoined (value : String) : Spelled flag (some value) [flag.short ++ "=" ++ value]
  | longJoined (value : String) : Spelled flag (some value) [flag.long ++ "=" ++ value]

namespace Flag

theorem short_ne_dash (f : Flag) : f.entry.short ≠ '-' := by
  cases f <;> decide

theorem equals_notMem_long (f : Flag) : '=' ∉ f.entry.long.toList := by
  cases f <;> decide

theorem long_ne_nil (f : Flag) : f.entry.long.toList ≠ [] := by
  cases f <;> decide

@[simp] theorem ofShort?_short (f : Flag) : ofShort? f.entry.short = some f := by
  cases f <;> rfl

@[simp] theorem ofLong?_long (f : Flag) : ofLong? f.entry.long = some f := by
  cases f <;> rfl

end Flag

namespace Shape

theorem ofChars_letters {c : Char} (h : c ≠ '-') (cs : List Char) :
    ofChars ('-' :: c :: cs) = .letters (c :: cs) := by
  unfold ofChars
  split <;> simp_all

theorem of_unmarked {text : String} (h : Unmarked text) : of text = .plain := by
  rw [Unmarked] at h
  unfold of ofChars
  split <;> simp_all

theorem ofChars_name {name : List Char} (hne : name ≠ []) (hn : '=' ∉ name) :
    ofChars ('-' :: '-' :: name) = .long (String.ofList name) none := by
  have hpos := bne_of_notMem hn
  have htake : (name ++ []).takeWhile (· != '=') = name ++ [] := List.takeWhile_append_of_pos hpos
  have hdrop : (name ++ []).dropWhile (· != '=') = [] := List.dropWhile_append_of_pos hpos
  rw [List.append_nil] at htake hdrop
  obtain ⟨c, more, rfl⟩ := List.exists_cons_of_ne_nil hne
  rw [ofChars, htake, hdrop]
  simp

theorem ofChars_name_joined {name : List Char} (hne : name ≠ []) (hn : '=' ∉ name) (value : List Char) :
    ofChars ('-' :: '-' :: (name ++ '=' :: value)) = .long (String.ofList name) (some (String.ofList value)) := by
  have htake := takeWhile_bne_append hn value
  have hdrop := dropWhile_bne_append hn value
  obtain ⟨c, more, rfl⟩ := List.exists_cons_of_ne_nil hne
  rw [List.cons_append] at htake hdrop ⊢
  rw [ofChars, htake, hdrop]
  simp

theorem of_short (f : Flag) : of f.short = .letters [f.entry.short] := by
  rw [of, Flag.short, String.toList_ofList]
  exact ofChars_letters f.short_ne_dash []

theorem of_short_joined (f : Flag) (value : String) :
    of (f.short ++ "=" ++ value) = .letters (f.entry.short :: '=' :: value.toList) := by
  rw [of, Flag.short, String.toList_append, String.toList_append, String.toList_ofList]
  exact ofChars_letters f.short_ne_dash ('=' :: value.toList)

theorem of_long (f : Flag) : of f.long = .long f.entry.long none := by
  rw [of, Flag.long, String.toList_append]
  exact (ofChars_name f.long_ne_nil f.equals_notMem_long).trans (by rw [String.ofList_toList])

theorem of_long_joined (f : Flag) (value : String) :
    of (f.long ++ "=" ++ value) = .long f.entry.long (some value) := by
  have hchars := ofChars_name_joined f.long_ne_nil f.equals_notMem_long value.toList
  rw [String.ofList_toList, String.ofList_toList] at hchars
  rw [of, Flag.long, String.toList_append, String.toList_append, String.toList_append, List.append_assoc]
  exact hchars

end Shape

namespace Reading

variable {r : Reading} {g g' : Given} {flag : Flag} {value : String}

theorem pathsOnly_of_settle (h : r.settle = .ok { given := g }) : r.pathsOnly = false := by
  obtain ⟨given, pending, pathsOnly⟩ := r
  match pending with
  | none => exact congrArg Reading.pathsOnly (Except.ok.inj h)
  | some (flag, none) => cases h
  | some (flag, some value) =>
      rw [settle] at h
      cases hs : given.store flag value with
      | error e => simp [hs, bind, Except.bind] at h
      | ok stored =>
          simp only [hs] at h
          exact congrArg Reading.pathsOnly (Except.ok.inj h)

theorem step_of_long (h : r.settle = .ok { given := g }) {arg name : String} {value : Option String}
    (hs : Shape.of arg = .long name value) : r.step arg = r.long name value := by
  rw [step, if_neg (Bool.eq_false_iff.1 (pathsOnly_of_settle h)), hs]

theorem step_of_letters (h : r.settle = .ok { given := g }) {arg : String} {cs : List Char}
    (hs : Shape.of arg = .letters cs) : r.step arg = r.letters cs := by
  rw [step, if_neg (Bool.eq_false_iff.1 (pathsOnly_of_settle h)), hs]

theorem letters_alone (r : Reading) {f : Flag} (hf : f.takesValue = false) :
    r.letters [f.entry.short] = r.raise f := by
  simp only [letters, Flag.ofShort?_short, hf]
  cases r.raise f <;> rfl

theorem letters_await (r : Reading) {f : Flag} (hf : f.takesValue = true) :
    r.letters [f.entry.short] = r.await f := by
  simp only [letters, Flag.ofShort?_short, hf, if_true]

theorem letters_joined (r : Reading) {f : Flag} (hf : f.takesValue = true) (value : String) :
    r.letters (f.entry.short :: '=' :: value.toList) = r.store f value := by
  simp only [letters, Flag.ofShort?_short, hf, if_true, String.ofList_toList]

theorem long_alone (r : Reading) {f : Flag} (hf : f.takesValue = false) :
    r.long f.entry.long none = r.raise f := by
  simp only [long, Flag.ofLong?_long, hf]

theorem long_await (r : Reading) {f : Flag} (hf : f.takesValue = true) :
    r.long f.entry.long none = r.await f := by
  simp only [long, Flag.ofLong?_long, hf]

theorem long_joined (r : Reading) {f : Flag} (hf : f.takesValue = true) (value : String) :
    r.long f.entry.long (some value) = r.store f value := by
  simp only [long, Flag.ofLong?_long, hf]

theorem store_of_settle (h : r.settle = .ok { given := g }) (hg : g.store flag value = .ok g') :
    r.store flag value = .ok { given := g' } := by
  simp only [store, h, bind, Except.bind, hg]
  rfl

theorem raise_of_settle (h : r.settle = .ok { given := g }) (hg : g.raise flag = .ok g') :
    r.raise flag = .ok { given := g' } := by
  simp only [raise, h, bind, Except.bind, hg]
  rfl

theorem await_of_settle (h : r.settle = .ok { given := g }) :
    r.await flag = .ok { given := g, pending := some (flag, none) } := by
  simp only [await, h, bind, Except.bind]
  rfl

theorem step_path (h : r.settle = .ok { given := g }) {arg : String} (ha : Unmarked arg) :
    r.step arg = .ok { given := g.addPath arg } := by
  have hpath : r.path arg = .ok { given := g.addPath arg } := by
    simp only [path, h, bind, Except.bind]
    rfl
  rw [step, if_neg (Bool.eq_false_iff.1 (pathsOnly_of_settle h)), Shape.of_unmarked ha]
  show r.plain arg = _
  rw [plain]
  split
  · rename_i flag hpending
    simp [settle, hpending] at h
  · exact hpath

theorem step_value (flag : Flag) (h : Unmarked value) :
    ({ given := g, pending := some (flag, none) } : Reading).step value =
      .ok { given := g, pending := some (flag, some value) } := by
  rw [step, if_neg Bool.false_ne_true, Shape.of_unmarked h]
  rfl

end Reading

def Given.take (g : Given) (flag : Flag) : Option String → Except Stop Given
  | none => g.raise flag
  | some value => g.store flag value

theorem Reading.settle_pending {flag : Flag} {value : String} {g g' : Given} (hg : g.store flag value = .ok g') :
    ({ given := g, pending := some (flag, some value) } : Reading).settle = .ok { given := g' } := by
  simp only [settle, hg]
  rfl

theorem Reading.foldlM_one {r r' : Reading} {arg : String} (h : r.step arg = .ok r') :
    [arg].foldlM step r = .ok r' := by
  rw [List.foldlM_cons, h]
  rfl

theorem Reading.foldlM_two {r r' r'' : Reading} {arg next : String} (h : r.step arg = .ok r')
    (hnext : r'.step next = .ok r'') : [arg, next].foldlM step r = .ok r'' := by
  rw [List.foldlM_cons, h]
  exact foldlM_one hnext

/-- However a flag is written, reading it does what the flag does. -/
theorem Spelled.read {flag : Flag} {value : Option String} {args : List String} (hs : Spelled flag value args)
    (hv : flag.takesValue = value.isSome) {r : Reading} {g g' : Given} (hr : r.settle = .ok { given := g })
    (hg : g.take flag value = .ok g') :
    ∃ r', args.foldlM Reading.step r = .ok r' ∧ r'.settle = .ok { given := g' } := by
  cases hs with
  | short =>
      have hstep := Reading.step_of_letters hr (Shape.of_short flag)
      rw [r.letters_alone hv, Reading.raise_of_settle hr hg] at hstep
      exact ⟨_, Reading.foldlM_one hstep, rfl⟩
  | long =>
      have hstep := Reading.step_of_long hr (Shape.of_long flag)
      rw [r.long_alone hv, Reading.raise_of_settle hr hg] at hstep
      exact ⟨_, Reading.foldlM_one hstep, rfl⟩
  | shortNext h =>
      have hstep := Reading.step_of_letters hr (Shape.of_short flag)
      rw [r.letters_await hv, Reading.await_of_settle hr] at hstep
      exact ⟨_, Reading.foldlM_two hstep (Reading.step_value flag h), Reading.settle_pending hg⟩
  | longNext h =>
      have hstep := Reading.step_of_long hr (Shape.of_long flag)
      rw [r.long_await hv, Reading.await_of_settle hr] at hstep
      exact ⟨_, Reading.foldlM_two hstep (Reading.step_value flag h), Reading.settle_pending hg⟩
  | shortJoined value =>
      have hstep := Reading.step_of_letters hr (Shape.of_short_joined flag value)
      rw [r.letters_joined hv, Reading.store_of_settle hr hg] at hstep
      exact ⟨_, Reading.foldlM_one hstep, rfl⟩
  | longJoined value =>
      have hstep := Reading.step_of_long hr (Shape.of_long_joined flag value)
      rw [r.long_joined hv, Reading.store_of_settle hr hg] at hstep
      exact ⟨_, Reading.foldlM_one hstep, rfl⟩

/-- Options and paths, each in an order of its own, as the arguments that they are mixed into. -/
inductive Arranged : List (Flag × Option String) → List String → List String → Prop
  | nil : Arranged [] [] []
  | option {flag : Flag} {value : Option String} {options : List (Flag × Option String)}
      {paths args rest : List String} (hs : Spelled flag value args) (h : Arranged options paths rest) :
      Arranged ((flag, value) :: options) paths (args ++ rest)
  | path {options : List (Flag × Option String)} {path : String} {paths rest : List String}
      (hp : Unmarked path) (h : Arranged options paths rest) : Arranged options (path :: paths) (path :: rest)

end BatchClassifier.CommandLine
