import Mosaic.Proofs.Program.Expansion
import Mosaic.Proofs.Program.Tokens

/-!
# Which line is to blame

What a line comes to does not depend on where in a text it stands, apart from the line on its
commands.  A problem names the line, so the problem of a text names the first of its lines that is
not in order.
-/

namespace Mosaic

namespace Op

/-!
## Operations on another line
-/

mutual

def movedTo (line : Int) : Op -> Op
  | once command => once ⟨line, command.action⟩
  | loop _ count body => loop line count (allMovedTo line body)

def allMovedTo (line : Int) : List Op -> List Op
  | [] => []
  | op :: rest => movedTo line op :: allMovedTo line rest

end

theorem allMovedTo_eq_map (line : Int) (ops : List Op) :
    allMovedTo line ops = ops.map (movedTo line) := by
  induction ops with
  | nil => rfl
  | cons op rest ih => rw [allMovedTo, ih, List.map_cons]

theorem isEmpty_allMovedTo (line : Int) (ops : List Op) :
    (allMovedTo line ops).isEmpty = ops.isEmpty := by
  rw [allMovedTo_eq_map, List.isEmpty_map]

theorem reverse_allMovedTo (line : Int) (ops : List Op) :
    (allMovedTo line ops).reverse = allMovedTo line ops.reverse := by
  rw [allMovedTo_eq_map, allMovedTo_eq_map, List.map_reverse]

mutual

theorem expand_movedTo (line : Int) (op : Op) :
    expand (movedTo line op) = ((expand op).map Command.action).map (Command.mk line) := by
  cases op with
  | once command => rfl
  | loop start count body =>
      rw [movedTo, expand_loop, expand_loop, expandAll_allMovedTo line body, List.map_flatten,
        List.map_flatten, List.map_replicate, List.map_replicate]

theorem expandAll_allMovedTo (line : Int) (ops : List Op) :
    expandAll (allMovedTo line ops) =
      ((expandAll ops).map Command.action).map (Command.mk line) := by
  cases ops with
  | nil => rfl
  | cons op rest =>
      rw [allMovedTo, expandAll, expandAll, expand_movedTo line op, expandAll_allMovedTo line rest,
        List.map_append, List.map_append]

end

end Op

/-!
## Attempts on every line
-/

/-- Attempts that come to the same on every line, made up for the line that it is, except that their
problem, which is of one of some kinds, names the line. -/
inductive Uniform {α γ : Type} (make : Int -> γ -> α) (kinds : List ProblemKind)
    (attempt : Int -> Except Fault α) : Prop
  | value (value : γ) (h : forall line, attempt line = .ok (make line value))
  | problem (cause : Cause) (hkind : cause.kind ∈ kinds)
      (h : forall line, attempt line = .error (.program ⟨line, cause⟩))
  | numeral (fault : Text.NumeralFault) (h : forall line, attempt line = .error (.numeral fault))

/-- Attempts whose value does not tell the line. -/
abbrev Lineless {α : Type} (kinds : List ProblemKind) (attempt : Int -> Except Fault α) : Prop :=
  Uniform (fun _ value => value) kinds attempt

section

variable {α β γ δ : Type} {make : Int -> γ -> α} {makeNext : Int -> δ -> β}
  {kinds : List ProblemKind} {attempt : Int -> Except Fault α}

theorem uniform_made (value : γ) : Uniform make kinds fun line => .ok (make line value) :=
  .value value fun _ => rfl

theorem uniform_ok (value : α) : Lineless kinds fun _ => .ok value :=
  uniform_made value

theorem uniform_problem {kind : ProblemKind} {cause : Cause} (h : cause.kind = kind) :
    Uniform make [kind] fun line => .error (.program ⟨line, cause⟩) :=
  .problem cause (List.mem_singleton.mpr h) fun _ => rfl

theorem Uniform.congr {other : Int -> Except Fault α} (h : Uniform make kinds attempt)
    (hsame : forall line, other line = attempt line) : Uniform make kinds other := by
  rwa [show other = attempt from funext hsame]

theorem Uniform.widen {more : List ProblemKind} (h : Uniform make kinds attempt)
    (hmore : forall kind, kind ∈ kinds -> kind ∈ more) : Uniform make more attempt := by
  cases h with
  | value value h => exact .value value h
  | problem cause hkind h => exact .problem cause (hmore _ hkind) h
  | numeral fault h => exact .numeral fault h

theorem Uniform.bind {next : Int -> α -> Except Fault β} (h : Uniform make kinds attempt)
    (hnext : forall value, Uniform makeNext kinds fun line => next line (make line value)) :
    Uniform makeNext kinds fun line => attempt line >>= next line := by
  cases h with
  | value value h =>
      apply (hnext value).congr
      intro line
      rw [h line]
      rfl
  | problem cause hkind h =>
      refine .problem cause hkind fun line => ?_
      rw [h line]
      rfl
  | numeral fault h =>
      refine .numeral fault fun line => ?_
      rw [h line]
      rfl

theorem uniform_foldlM {step : Int -> α -> β -> Except Fault α}
    (h : forall reached item, Uniform make kinds fun line => step line (make line reached) item)
    (items : List β) (start : γ) :
    Uniform make kinds fun line => items.foldlM (step line) (make line start) := by
  induction items generalizing start with
  | nil => exact uniform_made start
  | cons item rest ih =>
      have hboth : Uniform make kinds fun line =>
          step line (make line start) item >>= rest.foldlM (step line) :=
        (h start item).bind ih
      apply hboth.congr
      intro line
      rw [List.foldlM_cons]

theorem Uniform.problem_of_error (h : Uniform make kinds attempt) {line : Int} {problem : Problem}
    (herror : attempt line = .error (.program problem)) :
    problem.line = line ∧ problem.cause.kind ∈ kinds := by
  cases h with
  | value value h => cases (h line).symm.trans herror
  | problem cause hkind h =>
      cases (h line).symm.trans herror
      exact ⟨rfl, hkind⟩
  | numeral fault h => cases (h line).symm.trans herror

theorem Uniform.problem_of_clear (h : Uniform make kinds attempt) {line : Int}
    (hclear : FailsOver False (attempt line)) {fault : Fault} (herror : attempt line = .error fault) :
    exists cause : Cause, fault = .program ⟨line, cause⟩ ∧ cause.kind ∈ kinds := by
  rcases hclear with ⟨hfalse, _⟩ | ⟨_, hproblem⟩
  · cases hfalse
  · rcases hproblem fault herror with ⟨⟨blamed, cause⟩, rfl⟩
    rcases h.problem_of_error herror with ⟨rfl, hkind⟩
    exact ⟨cause, rfl, hkind⟩

/-- What succeeds on one line succeeds on every other one. -/
theorem Uniform.value_of_ok (h : Uniform make kinds attempt) {line : Int} {result : α}
    (hok : attempt line = .ok result) :
    exists value, make line value = result ∧ forall other, attempt other = .ok (make other value) := by
  cases h with
  | value value h =>
      cases (h line).symm.trans hok
      exact ⟨value, rfl, h⟩
  | problem cause hkind h => cases (h line).symm.trans hok
  | numeral fault h => cases (h line).symm.trans hok

end

/-!
## Screen lines
-/

namespace Screen

theorem uniform_tokensFrom (position depth : Nat) (cs : List Char) :
    Lineless [.grammar] fun line => tokensFrom line position depth cs := by
  induction position, depth, cs using tokensFrom.induct with
  | case1 position =>
      apply (uniform_ok []).congr
      intro line
      rw [tokensFrom, if_pos rfl]
  | case2 position depth hopen =>
      refine .problem .unbalanced (by decide) fun line => ?_
      rw [tokensFrom, if_neg hopen]
  | case3 position depth c rest hblank ih =>
      apply ih.congr
      intro line
      rw [tokensFrom, if_pos hblank]
  | case4 position depth c rest hplain token htoken deeper hdepth ih =>
      apply (ih.bind fun placed => uniform_ok (_ :: placed)).congr
      intro line
      rw [tokensFrom, if_neg hplain]
      simp only [htoken, hdepth]
      rfl
  | case5 position depth c rest hplain token htoken hdepth =>
      refine .problem .unbalanced (by decide) fun line => ?_
      rw [tokensFrom, if_neg hplain]
      simp only [htoken, hdepth]
  | case6 position depth c rest hplain hsign hdigit run ih =>
      apply (ih.bind fun placed => uniform_ok (_ :: placed)).congr
      intro line
      rw [tokensFrom, if_neg hplain]
      simp only [hsign, if_pos hdigit]
      rfl
  | case7 position depth c rest hplain hsign hdigit hletter run ih =>
      apply (ih.bind fun placed => uniform_ok (_ :: placed)).congr
      intro line
      rw [tokensFrom, if_neg hplain]
      simp only [hsign, if_neg hdigit, if_pos hletter]
      rfl
  | case8 position depth c rest hplain hsign hdigit hletter =>
      refine .problem (.unexpectedCharacter ((Text.characters (c :: rest)).headD []))
        (List.mem_singleton.mpr rfl) fun line => ?_
      rw [tokensFrom, if_neg hplain]
      simp only [hsign, if_neg hdigit, if_neg hletter]

def Frame.movedTo (line : Int) (frame : Frame) : Frame :=
  { frame with before := Op.allMovedTo line frame.before }

def Progress.movedTo (line : Int) : Progress -> Progress
  | items frames ops => items (frames.map (Frame.movedTo line)) (Op.allMovedTo line ops)
  | counted frames ops count =>
      counted (frames.map (Frame.movedTo line)) (Op.allMovedTo line ops) count
  | starred frames ops count =>
      starred (frames.map (Frame.movedTo line)) (Op.allMovedTo line ops) count

theorem uniform_loopCount (text : List Char) : Lineless [.grammar] fun _ => loopCount text := by
  unfold loopCount
  split
  · exact uniform_ok _
  · exact .numeral _ fun _ => rfl

theorem uniform_step (progress : Progress) (token : Token) :
    Uniform Progress.movedTo [.grammar] fun line => (progress.movedTo line).step line token := by
  cases progress with
  | items frames ops =>
      cases token with
      | plus => exact uniform_made (Progress.items frames ops)
      | number text =>
          exact (uniform_loopCount text).bind fun count => uniform_made (Progress.counted frames ops count)
      | word text =>
          simp only [Progress.movedTo, Progress.step]
          cases wordAction? text with
          | none => exact uniform_problem rfl
          | some action => exact uniform_made (Progress.items frames (.once ⟨0, action⟩ :: ops))
      | closing =>
          cases frames with
          | nil => exact uniform_problem rfl
          | cons frame frames =>
              simp only [Progress.movedTo, List.map_cons, Progress.step, Op.isEmpty_allMovedTo,
                Op.reverse_allMovedTo]
              split
              · exact uniform_problem rfl
              · exact uniform_made
                  (Progress.items frames (.loop 0 frame.count ops.reverse :: frame.before))
      | star => exact uniform_problem rfl
      | opening => exact uniform_problem rfl
  | counted frames ops count =>
      cases token with
      | star => exact uniform_made (Progress.starred frames ops count)
      | _ => exact uniform_problem rfl
  | starred frames ops count =>
      cases token with
      | opening => exact uniform_made (Progress.items (⟨count, ops⟩ :: frames) [])
      | _ => exact uniform_problem rfl

theorem uniform_finish (progress : Progress) :
    Uniform Op.allMovedTo [.grammar] fun line => (progress.movedTo line).finish line := by
  cases progress with
  | items frames ops =>
      cases frames with
      | nil =>
          cases ops with
          | nil => exact uniform_problem rfl
          | cons op ops =>
              apply (uniform_made (op :: ops).reverse).congr
              intro line
              rw [← Op.reverse_allMovedTo]
              rfl
      | cons frame frames => exact uniform_problem rfl
  | counted frames ops count => exact uniform_problem rfl
  | starred frames ops count => exact uniform_problem rfl

theorem uniform_sequence (row : List Token) :
    Uniform Op.allMovedTo [.grammar] fun line => sequence line row :=
  (uniform_foldlM uniform_step row (Progress.items [] [])).bind uniform_finish

theorem uniform_lineOps (cs : List Char) :
    Uniform Op.allMovedTo [.grammar] fun line => lineOps line cs :=
  (uniform_tokensFrom 0 0 cs).bind fun placed => uniform_sequence (placed.map Placed.token)

end Screen

namespace Program

/-!
## Other lines
-/

theorem uniform_number (cs : List Char) : Lineless [.grammar] fun _ => number cs := by
  rcases reads_number cs with ⟨_, n, hn⟩ | ⟨_, fault, hfault⟩
  · exact .value n fun _ => hn
  · exact .numeral fault fun _ => hfault

theorem uniform_signedNumber (cs : List Char) : Lineless [.grammar] fun _ => signedNumber cs := by
  rcases reads_signedNumber cs with ⟨_, n, hn⟩ | ⟨_, fault, hfault⟩
  · exact .value n fun _ => hn
  · exact .numeral fault fun _ => hfault

theorem uniform_declare (rows columns : List Char) :
    Lineless [.grammar] fun line => declare line rows columns := by
  have hboth := (uniform_number rows).bind fun height =>
    (uniform_number columns).bind fun width => show Lineless [.grammar] fun line =>
      (if height = 0 ∨ width = 0 then .error (problem line .sizeNotPositive)
        else .ok (.declare height width) : Except Fault Primitive) by
      split
      · exact uniform_problem rfl
      · exact uniform_ok _
  exact hboth.congr fun line => declare_eq line rows columns

theorem uniform_tableLine (cs : List Char) : Lineless [.grammar] fun line => tableLine line cs := by
  unfold tableLine
  split
  · exact uniform_declare _ _
  · split
    · split
      · split
        · exact (uniform_number _).bind fun count => (uniform_number _).bind fun row =>
            (uniform_number _).bind fun column => uniform_ok _
        · exact uniform_problem rfl
      · exact uniform_problem rfl
    · exact uniform_problem rfl

theorem uniform_gridLine (cs : List Char) : Lineless [.grammar] fun line => gridLine line cs := by
  unfold gridLine
  split
  · exact uniform_declare _ _
  · split
    · split
      · split
        · exact (uniform_number _).bind fun count => (uniform_signedNumber _).bind fun dx =>
            (uniform_signedNumber _).bind fun dy => uniform_ok _
        · exact uniform_problem rfl
      · exact uniform_problem rfl
    · exact uniform_problem rfl

theorem uniform_mazeLine (cs : List Char) : Lineless [.grammar] fun line => mazeLine line cs := by
  unfold mazeLine
  split
  · split
    · split
      · exact uniform_ok _
      · exact uniform_problem rfl
    · split
      · exact (uniform_number _).bind fun steps => uniform_ok _
      · exact uniform_problem rfl
  · exact uniform_problem rfl

theorem uniform_matrixLine (cs : List Char) : Lineless [.grammar] fun line => matrixLine line cs := by
  unfold matrixLine
  split
  · split
    · split
      · exact uniform_ok _
      · exact uniform_problem rfl
    · exact uniform_problem rfl
  · exact uniform_problem rfl

theorem uniform_single {reading : Int -> Except Fault Primitive} (h : Lineless [.grammar] reading) :
    Uniform Op.allMovedTo [.grammar] fun line => single line (reading line) := by
  apply (h.bind fun action => uniform_made [.once ⟨0, action⟩]).congr
  intro line
  unfold single
  cases reading line with
  | error fault => rfl
  | ok action => rfl

theorem uniform_parseLine (mode : Mode) (cs : List Char) :
    Uniform Op.allMovedTo [.grammar] fun line => parseLine mode line cs := by
  unfold parseLine
  simp only
  split
  · exact uniform_made []
  · cases mode with
    | table => exact uniform_single (uniform_tableLine _)
    | grid => exact uniform_single (uniform_gridLine _)
    | maze => exact uniform_single (uniform_mazeLine _)
    | matrix => exact uniform_single (uniform_matrixLine _)
    | pixel => exact Screen.uniform_lineOps cs

/-!
## Loading
-/

theorem uniform_sizeAfter (size : Option (Nat × Nat)) (action : Primitive) :
    Lineless [.structural] fun line => sizeAfter line size action := by
  unfold sizeAfter
  split
  · exact uniform_problem rfl
  · split
    · exact uniform_problem rfl
    · exact uniform_ok _
  · exact uniform_ok _
  · exact uniform_problem rfl

def loadedOn (line : Int) (read : List Primitive × Option (Nat × Nat)) :
    List Command × Option (Nat × Nat) :=
  (read.1.map (Command.mk line), read.2)

theorem uniform_loadLine (mode : Mode) (size : Option (Nat × Nat)) (cs : List Char) :
    Uniform loadedOn [.grammar, .structural] fun line => loadLine mode line size cs := by
  unfold loadLine
  refine Uniform.bind ((uniform_parseLine mode cs).widen (by simp)) fun ops => ?_
  split
  · apply (uniform_made (((Op.expandAll ops).take screenWidth).map Command.action, size)).congr
    intro line
    rw [Op.expandAllUpTo_eq_take, Op.expandAll_allMovedTo, ← List.map_take, ← List.map_take]
    rfl
  · simp only [Op.expandAll_allMovedTo, map_action_map_mk]
    split
    · have hsizes := uniform_foldlM uniform_sizeAfter ((Op.expandAll ops).map Command.action) size
      exact (hsizes.widen (by simp)).bind fun extent => uniform_made (_, extent)
    · exact uniform_made (_, size)

end Program
end Mosaic
