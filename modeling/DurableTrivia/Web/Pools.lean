import DurableTrivia.Lib.Bytes
import DurableTrivia.Web.Questions

/-!
# Pools — the authored questions

`rust_questions`, `temporal_questions` and `math_questions` of
`web/src/questions.rs`: thirty questions on Rust, fifteen on Temporal
and a hundred sums. Together they pass the check, which is run on their bytes.
-/

namespace DurableTrivia.Web

open DurableTrivia.Shared DurableTrivia.Lib

/-- A question, its right answer first. -/
def q (id category difficulty prompt correct : String) (wrong : Vector String 3) : Question :=
  { id, category, difficulty, prompt
    answers := #v[correct, wrong[0], wrong[1], wrong[2]]
    correctIndex := 0 }

/-- The Rust questions. -/
def rustQuestions : List Question :=
  [
    q "rust-001" "rust" "easy" "Which tool builds a Rust package?" "Cargo"
      #v["Clippy", "Rustdoc", "Miri"],
    q "rust-002" "rust" "easy" "Which keyword creates an immutable binding?" "let"
      #v["mut", "var", "const fn"],
    q "rust-003" "rust" "easy" "Which keyword makes a binding mutable?" "mut"
      #v["pub", "dyn", "move"],
    q "rust-004" "rust" "easy" "What does Vec<T> store?" "Growable list"
      #v["One value", "Key pairs", "Fixed tuple"],
    q "rust-005" "rust" "easy" "Which type represents success or failure?" "Result"
      #v["Option", "Future", "Iterator"],
    q "rust-006" "rust" "easy" "Which type represents a value that may be absent?" "Option"
      #v["Result", "Box", "String"],
    q "rust-007" "rust" "easy" "Which Option variant contains a value?" "Some"
      #v["Ok", "Value", "Present"],
    q "rust-008" "rust" "easy" "Which Result variant contains an error?" "Err"
      #v["None", "Fail", "Panic"],
    q "rust-009" "rust" "easy" "What symbol creates a shared reference?" "&" #v["*", "#", "@"],
    q "rust-010" "rust" "easy" "Which macro prints a line to standard output?" "println!"
      #v["format!", "dbg!", "write!"],
    q "rust-011" "rust" "easy" "Which file declares a Cargo package?" "Cargo.toml"
      #v["Cargo.lock", "rustfmt.toml", "main.rs"],
    q "rust-012" "rust" "easy" "What is Rust's package unit called?" "Crate"
      #v["Gem", "Pod", "Module file"],
    q "rust-013" "rust" "medium" "Which keyword defines shared behavior?" "trait"
      #v["impl", "where", "type"],
    q "rust-014" "rust" "medium" "Which keyword implements methods for a type?" "impl"
      #v["trait", "match", "use"],
    q "rust-015" "rust" "medium" "Which construct exhaustively handles enum variants?" "match"
      #v["loop", "if let", "where"],
    q "rust-016" "rust" "medium" "What does the ? operator usually propagate?" "Errors"
      #v["Threads", "Borrows", "Macros"],
    q "rust-017" "rust" "medium" "Which smart pointer gives heap allocation?" "Box<T>"
      #v["Rc<T>", "&mut T", "Cell<T>"],
    q "rust-018" "rust" "medium" "Which type provides shared single-thread ownership?" "Rc<T>"
      #v["Arc<T>", "Box<T>", "RefCell<T>"],
    q "rust-019" "rust" "medium" "Which type provides atomic shared ownership?" "Arc<T>"
      #v["Rc<T>", "Vec<T>", "Cow<T>"],
    q "rust-020" "rust" "medium" "What does Send permit across threads?" "Value transfer"
      #v["Shared mutation", "Async syntax", "Heap growth"],
    q "rust-021" "rust" "medium" "What does Sync permit between threads?" "Shared access"
      #v["Value moves", "Disk writes", "Panics"],
    q "rust-022" "rust" "medium" "Which command runs Rust tests?" "cargo test"
      #v["cargo bench", "cargo doc", "cargo tree"],
    q "rust-023" "rust" "medium" "Which tool suggests idiomatic improvements?" "Clippy"
      #v["Rustup", "Cargo", "Rustdoc"],
    q "rust-024" "rust" "medium" "Which tool formats Rust source?" "rustfmt"
      #v["rustdoc", "miri", "clippy"],
    q "rust-025" "rust" "hard" "Which keyword creates a raw identifier?" "r#name"
      #v["#name", "raw name", "@name"],
    q "rust-026" "rust" "hard" "Which marker can opt a type out of Unpin?" "PhantomPinned"
      #v["PhantomData", "Pin<Box>", "UnsafeCell"],
    q "rust-027" "rust" "hard" "Which type enables checked interior mutation?" "RefCell<T>"
      #v["Rc<T>", "Box<T>", "OnceLock<T>"],
    q "rust-028" "rust" "hard" "What does 'static mean on a string literal?" "Program lifetime"
      #v["Heap allocated", "Never borrowed", "Is mutable"],
    q "rust-029" "rust" "hard" "Which trait powers .await?" "Future"
      #v["Iterator", "Display", "Poll"],
    q "rust-030" "rust" "hard" "Which enum does Future::poll return?" "Poll"
      #v["Result", "ControlFlow", "PendingOnly"]
  ]

/-- The Temporal questions. -/
def temporalQuestions : List Question :=
  [
    q "temporal-001" "temporal" "easy" "What stores durable Workflow state?" "Event History"
      #v["Worker RAM", "Task Queue", "Activity log"],
    q "temporal-002" "temporal" "easy" "Who executes Workflow and Activity code?" "Workers"
      #v["Namespaces", "Schedules", "Search attrs"],
    q "temporal-003" "temporal" "easy" "What routes tasks to Workers?" "Task Queue"
      #v["Signal", "Namespace", "Memo"],
    q "temporal-004" "temporal" "easy" "What should contain failure-prone I/O?" "Activities"
      #v["Queries", "Workflows", "Timers"],
    q "temporal-005" "temporal" "easy" "What sends an asynchronous message to a Workflow?" "Signal"
      #v["Query", "Heartbeat", "Memo"],
    q "temporal-006" "temporal" "easy" "What reads Workflow state without changing it?" "Query"
      #v["Signal", "Activity", "Update"],
    q "temporal-007" "temporal" "easy" "What bounds an Activity attempt?" "Start-to-close"
      #v["Workflow ID", "Task Queue", "Search attr"],
    q "temporal-008" "temporal" "easy" "What detects failure in a long Activity quickly?"
      "Heartbeats"
      #v["Queries", "Schedules", "Memos"],
    q "temporal-009" "temporal" "medium" "What must Workflow code be during replay?" "Deterministic"
      #v["Multithreaded", "Stateless", "Synchronous"],
    q "temporal-010" "temporal" "medium" "What uniquely names a Workflow Execution series?"
      "Workflow ID"
      #v["Task token", "Build ID", "Activity ID"],
    q "temporal-011" "temporal" "medium" "What can safely retry after Worker failure?" "Activities"
      #v["Queries", "Memos", "Search attrs"],
    q "temporal-012" "temporal" "medium" "What starts fresh History while keeping the Workflow?"
      "Continue-As-New"
      #v["Reset", "Heartbeat", "Signal"],
    q "temporal-013" "temporal" "hard" "Which timeout includes every Activity retry?"
      "Schedule-to-close"
      #v["Start-to-close", "Heartbeat", "Run timeout"],
    q "temporal-014" "temporal" "hard" "What records Activity progress for the next attempt?"
      "Heartbeat detail"
      #v["Query result", "Search attr", "Worker cache"],
    q "temporal-015" "temporal" "hard" "What replays History to restore Workflow state?"
      "Workflow Worker"
      #v["Activity Worker", "Cloud UI", "Task Queue"]
  ]

/-- The format `:03` of a number. -/
def threeDigits (n : Nat) : String :=
  let digits := Nat.toDigits 10 n
  String.ofList (List.replicate (3 - digits.length) '0' ++ digits)

/-- The sum behind the number `n`. -/
def mathQuestion (n : Nat) : Question :=
  let left := n % 17 + 3
  let right := n % 13 + 4
  let answer := left + right
  q ("math-add-" ++ threeDigits n) "math" (if n < 50 then "easy" else "medium")
    ("What is " ++ toString left ++ " + " ++ toString right ++ "?")
    (toString answer) #v[toString (answer + 1), toString (answer - 1), toString (answer + 3)]

/-- The sums, for `n` from 11 to 110. -/
def mathQuestions : List Question :=
  (List.range' 11 100).map mathQuestion

/-! ## Sizes and categories -/

theorem length_rustQuestions : rustQuestions.length = 30 := rfl

theorem length_temporalQuestions : temporalQuestions.length = 15 := rfl

theorem length_mathQuestions : mathQuestions.length = 100 := by
  simp [mathQuestions]

theorem category_rustQuestions : ∀ question ∈ rustQuestions, question.category = "rust" := by
  decide +kernel

theorem category_temporalQuestions :
    ∀ question ∈ temporalQuestions, question.category = "temporal" := by
  decide +kernel

theorem category_mathQuestions : ∀ question ∈ mathQuestions, question.category = "math" := by
  intro question h
  obtain ⟨n, _, rfl⟩ := List.mem_map.mp h
  rfl

/-! ## The check, on bytes -/

/-- The check of `validate_questions`, read off the bytes. -/
structure ByteChecked (questions : List Question) : Prop where
  prompts_fit : ∀ question ∈ questions, (utf8Bytes question.prompt).length ≤ maxPromptChars
  answers_fit : ∀ question ∈ questions, ∀ answer ∈ question.answers.toList,
    (utf8Bytes answer).length ≤ maxAnswerChars ∧ utf8Bytes answer ≠ []
  answers_differ : ∀ question ∈ questions, (question.answers.toList.map lowerKey).Nodup
  correctIndex : ∀ question ∈ questions, question.correctIndex ≤ 3
  ids : (questions.map fun question => lowerKey question.id).Nodup
  prompts : (questions.map fun question => lowerKey question.prompt).Nodup

theorem nodup_of_keys {α : Type*} {f : α → String} {xs : List α}
    (h : (xs.map fun x => lowerKey (f x)).Nodup) :
    (xs.map f).Nodup ∧ (xs.map fun x => (f x).toLower).Nodup := by
  rw [List.nodup_iff_pairwise_ne, List.pairwise_map] at h
  constructor
  · rw [List.nodup_iff_pairwise_ne, List.pairwise_map]
    exact h.imp fun hne heq => hne (congrArg lowerKey heq)
  · rw [List.nodup_iff_pairwise_ne, List.pairwise_map]
    exact h.imp fun hne heq => hne (lowerKey_eq_of_toLower_eq heq)

theorem ByteChecked.fits {questions : List Question} (h : ByteChecked questions)
    {question : Question} (hmem : question ∈ questions) :
    fits String.toLower question.prompt question.answers = true := by
  have hprompt := (length_le_length_utf8Bytes _).trans (h.prompts_fit question hmem)
  have hanswers : ∀ answer ∈ question.answers.toList,
      (!answer.isEmpty && decide (answer.length ≤ maxAnswerChars)) = true := by
    intro answer hanswer
    obtain ⟨hlen, hne⟩ := h.answers_fit question hmem answer hanswer
    have hshort := (length_le_length_utf8Bytes answer).trans hlen
    have hempty : answer.isEmpty = false := by
      rw [Bool.eq_false_iff]
      intro hc
      apply hne
      rw [String.isEmpty_iff.mp hc]
      decide
    rw [hempty, decide_eq_true hshort]
    rfl
  have hdistinct : ((question.answers.toList.map String.toLower).toFinset).card = 4 := by
    rw [List.toFinset_card_of_nodup (nodup_of_keys (h.answers_differ question hmem)).2,
      List.length_map, Vector.length_toList]
  have hall : question.answers.all
      (fun answer => !answer.isEmpty && decide (answer.length ≤ maxAnswerChars)) = true := by
    rw [← Vector.all_toList, List.all_eq_true]
    exact hanswers
  unfold Web.fits
  rw [decide_eq_true hprompt, hall, hdistinct]
  rfl

/-- What passes on its bytes passes. -/
theorem ByteChecked.checked {questions : List Question} (h : ByteChecked questions) :
    Checked String.toLower ∅ ∅ questions := by
  constructor
  · exact fun question hmem => h.fits hmem
  · exact h.correctIndex
  · exact ⟨(nodup_of_keys h.ids).1, fun _ _ => Finset.notMem_empty _⟩
  · exact ⟨(nodup_of_keys h.prompts).2, fun _ _ => Finset.notMem_empty _⟩

theorem ByteChecked.append_one {questions : List Question} {last : Question}
    (h : ByteChecked questions) (hlast : ByteChecked [last])
    (hid : ∀ question ∈ questions, lowerKey question.id ≠ lowerKey last.id)
    (hprompt : ∀ question ∈ questions, lowerKey question.prompt ≠ lowerKey last.prompt) :
    ByteChecked (questions ++ [last]) := by
  constructor
  · exact List.forall_mem_append.mpr ⟨h.prompts_fit, hlast.prompts_fit⟩
  · exact List.forall_mem_append.mpr ⟨h.answers_fit, hlast.answers_fit⟩
  · exact List.forall_mem_append.mpr ⟨h.answers_differ, hlast.answers_differ⟩
  · exact List.forall_mem_append.mpr ⟨h.correctIndex, hlast.correctIndex⟩
  · rw [List.map_append, List.nodup_append]
    refine ⟨h.ids, hlast.ids, ?_⟩
    intro key hkey other hother
    obtain ⟨question, hmem, rfl⟩ := List.mem_map.mp hkey
    rw [List.mem_singleton.mp hother]
    exact hid question hmem
  · rw [List.map_append, List.nodup_append]
    refine ⟨h.prompts, hlast.prompts, ?_⟩
    intro key hkey other hother
    obtain ⟨question, hmem, rfl⟩ := List.mem_map.mp hkey
    rw [List.mem_singleton.mp hother]
    exact hprompt question hmem

/-- **The authored questions pass the check.** -/
theorem byteChecked_authored :
    ByteChecked (rustQuestions ++ temporalQuestions ++ mathQuestions) := by
  constructor
  all_goals decide +kernel

end DurableTrivia.Web
