import BrushScript.CommandLine.Invocation
import BrushScript.Proofs.Integer

/-!
# What options keep

What every option and every operand of a part keeps true of the choices, reading the part keeps true
(`read_keeps`). So no command line asks for an empty theme (`theme_ne_empty`). Conversely, every
change to the settings without an empty theme is what some command line asks for
(`ofArguments_changeWords`).

The words of a part are read from the left, an option with its value or an operand at a time, and
the choices made so far are handed on. `read_keeps` is the induction over these words, for a
property of the choices that is arbitrary. Each of the cases is one kind of word, and those that end
in an error have nothing to keep.

The command line of `changeWords` gives each option together with its value as one word, so that a
value may be any text, one that begins with a dash included.
-/

namespace BrushScript.CommandLine

/-! ## Keeping

A property is kept by an option if it is kept by whatever the option chooses, and by a part if it is
kept by all of its options and operands.
-/

variable {σ : Type} {P : σ → Prop}

/-- Giving the option keeps a property of the choices. -/
def OptionSpec.Keeps (P : σ → Prop) (o : OptionSpec σ) : Prop :=
  match o.meaning with
  | .switch choose => ∀ c, P c → P (choose c)
  | .value choose => ∀ s c c', choose s c = some c' → P c → P c'

/-- Giving an operand keeps a property of the choices. -/
def TakeKeeps (P : σ → Prop) (take : String → σ → Option σ) : Prop :=
  ∀ word c c', take word c = some c' → P c → P c'

/-- A computation succeeds where its steps do. -/
theorem bind_eq_ok_iff {ε α β : Type} {x : Except ε α} {f : α → Except ε β} {b : β} :
    (x >>= f) = .ok b ↔ ∃ a, x = .ok a ∧ f a = .ok b := by
  cases x with
  | error e => exact ⟨nofun, nofun⟩
  | ok a => exact ⟨fun made => ⟨a, rfl, made⟩, fun ⟨_, same, made⟩ => Except.ok.inj same ▸ made⟩

namespace Part

variable {r r' : Reading σ}

theorem choose_keeps {o : OptionSpec σ} {value : Option String} (keeps : o.Keeps P)
    (chosen : choose r o value = .ok r') (h : P r.choices) : P r'.choices := by
  unfold choose at chosen
  unfold OptionSpec.Keeps at keeps
  split at chosen
  · cases chosen
  · split at chosen
    · next same =>
      rw [same] at keeps
      cases chosen
      exact keeps _ h
    · cases chosen
    · cases chosen
    · next same =>
      rw [same] at keeps
      split at chosen
      · next made =>
        cases chosen
        exact keeps _ _ _ made h
      · cases chosen

theorem takeOperand_keeps {take : String → σ → Option σ} {word : String}
    (keeps : TakeKeeps P take) (taken : takeOperand take r word = .ok r') (h : P r.choices) :
    P r'.choices := by
  unfold takeOperand at taken
  split at taken
  · next made =>
    cases taken
    exact keeps _ _ _ made h
  · cases taken

theorem readOperands_keeps {p : Part σ}
    (operands : ∀ take, p.operand = some take → TakeKeeps P take) {words : List String}
    (read : p.readOperands r words = .ok r') (h : P r.choices) :
    P r'.choices := by
  induction words generalizing r with
  | nil =>
    cases read
    exact h
  | cons word words ih =>
    rw [readOperands] at read
    split at read
    · cases read
    · next take same =>
      obtain ⟨middle, taken, read⟩ := bind_eq_ok_iff.mp read
      exact ih read (takeOperand_keeps (operands take same) taken h)

/-- What all options and operands keep, reading keeps. -/
theorem read_keeps {p : Part σ} (options : ∀ o ∈ p.options, o.Keeps P)
    (operands : ∀ take, p.operand = some take → TakeKeeps P take) {words rest : List String}
    (read : p.read r words = .ok (r', rest)) (h : P r.choices) : P r'.choices := by
  induction r, words using Part.read.induct p with
  | case1 r => -- the words are at an end
    cases read
    exact h
  | case2 r word words kind => -- everything from here on is an operand
    rw [Part.read, kind] at read
    obtain ⟨last, taken, same⟩ := bind_eq_ok_iff.mp read
    cases same
    exact readOperands_keeps operands taken h
  | case3 r word words c kind => -- letters behind a single dash, which no option has
    rw [Part.read, kind] at read
    cases read
  | case4 r word words kind none => -- an operand where the part takes none, which ends it
    simp only [Part.read, kind, none] at read
    cases read
    exact h
  | case5 r word words kind take same ih => -- an operand
    simp only [Part.read, kind, same] at read
    obtain ⟨middle, taken, read⟩ := bind_eq_ok_iff.mp read
    exact ih middle read (takeOperand_keeps (operands take same) taken h)
  | case6 r word words name attached kind none => -- an option that the part does not have
    simp only [Part.read, kind, none] at read
    cases read
  | case7 r word name attached kind o found takes value words operand ih =>
    -- an option whose value is the next word
    simp only [Part.read, kind, found, if_pos takes, if_pos operand] at read
    obtain ⟨middle, chosen, read⟩ := bind_eq_ok_iff.mp read
    exact ih middle read (choose_keeps (options o (List.mem_of_find?_eq_some found)) chosen h)
  | case8 r word name attached kind o found takes value words operand =>
    -- an option whose value would be the next word, which is an option itself
    simp only [Part.read, kind, found, if_pos takes, if_neg operand] at read
    cases read
  | case9 r word name attached kind o found takes =>
    -- an option whose value is missing, as the words are at an end
    simp only [Part.read, kind, found, if_pos takes] at read
    cases read
  | case10 r word words name attached kind o found takes ih =>
    -- an option that needs no further word
    simp only [Part.read, kind, found, if_neg takes] at read
    obtain ⟨middle, chosen, read⟩ := bind_eq_ok_iff.mp read
    exact ih middle read (choose_keeps (options o (List.mem_of_find?_eq_some found)) chosen h)

end Part

/-! ## Themes

The theme is given as a path, which is never empty, and no other option changes it.
-/

theorem Request.ofInterruption_ne_invocation (about : Topic) (e : Interruption) (i : Invocation) :
    ofInterruption about e ≠ .ok (.invocation i) := by
  cases e <;> exact nofun

/-- What a task of a command line is about. -/
theorem Request.exists_task {words : List String} {i : Invocation}
    (asks : ofArguments words = .ok (.invocation i)) :
    ∃ (t : Task) (before : Choices) (own : List String) (reading : Reading Choices)
      (rest : List String), t.part.read ⟨{}, []⟩ own = .ok (reading, rest) ∧
        (before.after reading.choices).job? t = some i.job := by
  unfold ofArguments at asks
  -- one branch for each way in which reading the front can come out
  split at asks
  · -- help, the version or a misuse
    exact absurd asks (ofInterruption_ne_invocation _ _ _)
  · -- no task
    cases asks
  · next before word own _ => -- a word behind the options
    split at asks
    · -- a task, whose options are read next
      next t _ =>
      unfold ofTask at asks
      split at asks
      · -- help, the version or a misuse of the task
        exact absurd asks (ofInterruption_ne_invocation _ _ _)
      · next reading rest read =>
        dsimp only at asks
        split at asks
        · next job same =>
          cases asks
          exact ⟨t, before.choices, own, reading, rest, read, same⟩
        · -- a script is missing
          cases asks
    · -- no task, so it asks for help or is a misuse
      split at asks
      · unfold ofHelp at asks
        split at asks
        · cases asks
        · split at asks <;> cases asks
        · cases asks
      · cases asks

theorem keeps_valued {α : Type} {Q : Choices → Prop} {name summary : String}
    {read : String → Option α} {choose : α → Choices → Choices}
    (keeps : ∀ s a c, read s = some a → Q c → Q (choose a c)) :
    (valued name summary read choose).Keeps Q := by
  intro s c c' made h
  obtain ⟨a, found, rfl⟩ := Option.map_eq_some_iff.mp made
  exact keeps s a c found h

theorem keeps_theme : ∀ o ∈ Task.settings.options,
    o.Keeps fun c : Choices => c.change.theme ≠ some "" := by
  intro o mem
  simp only [Task.options, Task.ownOptions, generalOptions, List.cons_append, List.nil_append,
    List.mem_cons, List.not_mem_nil, or_false] at mem
  obtain rfl | rfl | rfl | rfl | rfl | rfl := mem
  · exact keeps_valued fun _ _ _ _ h => h
  · exact keeps_valued fun _ _ _ _ h => h
  · -- the one option that names a theme, which it takes as a path
    refine keeps_valued fun s p c found _ => ?_
    unfold pathValue? at found
    split at found
    · cases found
    · next shown =>
      cases found
      rw [Path.text_ofText]
      exact fun same => shown (Option.some.inj same)
  · exact keeps_valued fun _ _ _ _ h => h
  · exact keeps_valued fun _ _ _ _ h => h
  · exact fun _ h => h

/-- No command line asks for an empty theme. -/
theorem Request.theme_ne_empty {words : List String} {change : Settings.Change} {json : Bool}
    {dir : Option Path}
    (asks : ofArguments words = .ok (.invocation ⟨.settings change, json, dir⟩)) :
    change.theme ≠ some "" := by
  obtain ⟨t, before, own, reading, rest, read, job⟩ := exists_task asks
  unfold Choices.job? at job
  cases t with
  | run | check | tokens => -- these ask for no change
    obtain ⟨_, _, same⟩ := Option.map_eq_some_iff.mp job
    cases same
  | reference | colors => cases job
  | settings =>
    cases job
    refine Part.read_keeps (P := fun c => c.change.theme ≠ some "") keeps_theme ?_ read nofun
    rintro take ⟨⟩ word c c' ⟨⟩

/-! ## Asking for a change

An option and its value are one word here, and for a field that is not to be changed there is no
word. So reading the words makes the choices one field after the other.
-/

/-- An option with its value as one word. -/
def optionWord (name value : String) : String := "--" ++ name ++ "=" ++ value

theorem ofText_optionWord {name : String} (noSign : '=' ∉ name.toList) (value : String) :
    Word.ofText (optionWord name value) = .option name (some value) := by
  have letters : (optionWord name value).toList =
      '-' :: '-' :: (name.toList ++ '=' :: value.toList) := by
    simp [optionWord]
  have front : (name.toList ++ '=' :: value.toList).takeWhile (· ≠ '=') = name.toList := by
    rw [List.takeWhile_append_of_pos (by simpa using fun c mem => ne_of_mem_of_not_mem mem noSign),
      List.takeWhile_cons_of_neg (by simp), List.append_nil]
  have behind : (name.toList ++ '=' :: value.toList).drop name.toList.length =
      '=' :: value.toList := List.drop_left
  rw [Word.ofText, letters]
  split
  · next short => simp at short
  · next rest _ same =>
    cases same
    rw [front]
    dsimp only
    rw [behind]
    simp
  · next other same =>
    cases same
    exact (other rfl).elim
  · next other => exact absurd rfl (other _ _)

/-- An option that was not given before is given by one word. -/
theorem Part.read_optionWord {p : Part σ} {r : Reading σ} {o : OptionSpec σ} {name value : String}
    {choose : String → σ → Option σ} {choices : σ} (noSign : '=' ∉ name.toList)
    (found : p.find? name = some o) (named : o.name = name) (fresh : name ∉ r.given)
    (meaning : o.meaning = .value choose) (made : choose value r.choices = some choices)
    (words : List String) :
    p.read r (optionWord name value :: words) = p.read ⟨choices, name :: r.given⟩ words := by
  have attached : takesNext o (some value) = false := by
    unfold takesNext
    rw [meaning]
  have chosen : Part.choose r o (some value) = .ok ⟨choices, name :: r.given⟩ := by
    unfold Part.choose
    rw [named, if_neg fresh, meaning]
    dsimp only
    rw [made]
  simp only [Part.read, ofText_optionWord noSign value, found, attached, chosen]
  rfl

/-- An option of the settings that may be given, for a field that may have a new value. -/
theorem read_optionalWord {α β : Type} {name summary : String} {read : String → Option α}
    {choose : α → Choices → Choices}
    (found : Task.settings.part.find? name = some (valued name summary read choose))
    (noSign : '=' ∉ name.toList) {render : β → String} {value : β → α} {field : Option β}
    (made : ∀ b, field = some b → read (render b) = some (value b)) (r : Reading Choices)
    (fresh : name ∉ r.given) (words : List String) :
    Task.settings.part.read r ((field.map fun b => optionWord name (render b)).toList ++ words) =
      Task.settings.part.read
        ⟨field.elim r.choices fun b => choose (value b) r.choices,
          (field.map fun _ => name).toList ++ r.given⟩ words := by
  cases field with
  | none => rfl
  | some b =>
    refine Part.read_optionWord noSign found rfl fresh rfl ?_ words
    rw [made b rfl]
    rfl

/-- The words that ask for a change. -/
def changeWords (c : Settings.Change) : List String :=
  "settings" ::
    ((c.canvasSize.map fun n => optionWord "set-size" n.toNat.repr).toList ++
      ((c.background.map fun s => optionWord "set-background" s).toList ++
        ((c.theme.map fun s => optionWord "set-theme" s).toList ++
          ((c.maxGoToVisits.map fun n => optionWord "set-max-goto-visits" n.toNat.repr).toList ++
            []))))

theorem longWordValue?_repr (n : UInt64) : longWordValue? n.toNat.repr = some n := by
  rw [longWordValue?, Integer.natural?_repr, Option.filter_some,
    if_pos (by simpa using n.toNat_lt)]
  exact congrArg some UInt64.ofNat_toNat

theorem wordValue?_repr (n : UInt32) : wordValue? n.toNat.repr = some n := by
  have small := n.toNat_lt
  have fits : (Int64.ofNat n.toNat).toInt = n.toNat := Int64.toInt_ofNat_of_lt (by omega)
  rw [wordValue?, Integer.decimal?_repr fits]
  dsimp only [Option.bind_some]
  rw [fits, if_pos (by omega)]
  exact congrArg some UInt32.ofNat_toNat

/-- Every change without an empty theme can be asked for. -/
theorem ofArguments_changeWords {c : Settings.Change} (shown : c.theme ≠ some "") :
    Request.ofArguments (changeWords c) = .ok (.invocation ⟨.settings c, false, none⟩) := by
  obtain ⟨size, background, theme, visits⟩ := c
  have readTheme (s : String) (same : theme = some s) : pathValue? s = some (Path.ofText s) := by
    rw [pathValue?, if_neg (by rintro rfl; exact shown same)]
  have front (words : List String) :
      front.read ⟨{}, []⟩ ("settings" :: words) = .ok (⟨{}, []⟩, "settings" :: words) := by
    have operand : Word.ofText "settings" = .operand := by decide
    simp only [Part.read, operand]
    rfl
  have task : Task.ofName? "settings" = some .settings := by decide
  rw [Request.ofArguments, changeWords, front]
  dsimp only
  rw [task]
  dsimp only
  rw [Request.ofTask, read_optionalWord rfl (by decide) fun n _ => longWordValue?_repr n,
    read_optionalWord rfl (by decide) fun s _ => rfl,
    read_optionalWord rfl (by decide) readTheme,
    read_optionalWord rfl (by decide) fun n _ => wordValue?_repr n]
  · simp only [Path.text_ofText]
    cases size <;> cases background <;> cases theme <;> cases visits <;> rfl
  -- the options differ in their names, so none of them was given before
  · cases size <;> cases background <;> cases theme <;> simp
  · cases size <;> cases background <;> simp
  · cases size <;> simp
  · simp

end BrushScript.CommandLine
