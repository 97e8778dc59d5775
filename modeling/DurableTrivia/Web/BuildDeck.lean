import DurableTrivia.BadgeScreen.Wrap
import DurableTrivia.Lib.Rounds
import DurableTrivia.Shared.Identity
import DurableTrivia.Web.Pools
import DurableTrivia.Web.Questions

/-!
# BuildDeck — the deck a round starts with

`build_deck`, `shuffle_answers` and `general_questions` of
`web/src/questions.rs`. The random generator, Unicode's lower case, the
HTML entity decoder and the digest come from outside; a shuffle is known
to permute and nothing more.

Up to the shuffling of batches, what is dealt is a prefix of one fixed
order of the shuffled pools: rounds of 30, 15, 15 and 40 questions for as
long as a pool has any. The deck therefore repeats no question and is
short only when the pools are.
-/

namespace DurableTrivia.Web

open DurableTrivia.Shared DurableTrivia.Lib

/-! ## What comes from outside -/

/-- `StdRng` with the shuffles drawn from it. -/
structure Generator where
  Rng : Type
  seedFromU64 : UInt64 → Rng
  shuffle : {α : Type} → List α → Rng → List α × Rng
  perm : ∀ {α : Type} (xs : List α) (rng : Rng), (shuffle xs rng).1.Perm xs

/-- What the deck rests on outside the repository. -/
structure Outside where
  generator : Generator
  toLowercase : String → String
  decodeHtmlEntities : String → String
  sha256 : String → Vector UInt8 32

/-! ## The general questions -/

/-- A question as the source file has it. -/
structure SourceQuestion where
  kind : String
  difficulty : String
  category : String
  question : String
  correctAnswer : String
  incorrectAnswers : List String
  deriving DecidableEq, Repr

/-- The categories that make it into the deck. -/
def allowedCategories : List String :=
  ["Animals", "Art", "Entertainment: Board Games", "Entertainment: Books", "Entertainment: Film",
    "Entertainment: Music", "Entertainment: Television", "Entertainment: Video Games",
    "General Knowledge", "Geography", "History", "Science & Nature", "Science: Computers",
    "Science: Gadgets", "Science: Mathematics", "Vehicles"]

/-- Words that keep a question out. -/
def blocked : List String :=
  ["porn", "hentai", "sexual", "suicide", "serial killer", "hitler", "nazi"]

/-- `str::trim`. -/
def trim (text : String) : String :=
  String.ofList
    ((text.toList.dropWhile BadgeScreen.isWhitespace).rdropWhile BadgeScreen.isWhitespace)

variable (o : Outside)

/-- A text of the source file, its entities decoded and trimmed. -/
def decode (value : String) : String :=
  trim (o.decodeHtmlEntities value)

/-- An id from the position and the prompt's digest. -/
def stableId (start : String) (index : Nat) (prompt : String) : String :=
  let digest := o.sha256 prompt
  start ++ "-" ++ toString index ++ "-" ++ hexByte false digest[0] ++ hexByte false digest[1]
    ++ hexByte false digest[2] ++ hexByte false digest[3]

/-- One record of the source as a question, unless the loop skips it;
`seen` are the lower-cased prompts accepted before. -/
def acceptSource (seen : Finset String) (index : Nat) (raw : SourceQuestion) : Option Question :=
  if raw.kind ≠ "multiple" ∨ raw.incorrectAnswers.length ≠ 3
      ∨ raw.category ∉ allowedCategories then
    none
  else
    let prompt := decode o raw.question
    let correct := decode o raw.correctAnswer
    let wrong := raw.incorrectAnswers.map (decode o)
    let combined :=
      o.toLowercase (prompt ++ " " ++ correct ++ " " ++ " ".intercalate wrong)
    if ∃ word ∈ blocked, word.toList <:+: combined.toList then
      none
    else
      let answers := #v[correct, wrong.getD 0 "", wrong.getD 1 "", wrong.getD 2 ""]
      if fits o.toLowercase prompt answers = false ∨ o.toLowercase prompt ∈ seen then
        none
      else
        some
          { id := stableId o "otdb" index prompt
            category := "general"
            difficulty := raw.difficulty
            prompt
            answers
            correctIndex := 0 }

/-- The accepted questions from position `index` on, given the prompts
`seen` before. -/
def generalQuestionsFrom (seen : Finset String) (index : Nat) :
    List SourceQuestion → List Question
  | [] => []
  | raw :: source =>
      match acceptSource o seen index raw with
      | none => generalQuestionsFrom seen (index + 1) source
      | some question =>
          question :: generalQuestionsFrom (insert (o.toLowercase question.prompt) seen)
            (index + 1) source

/-- The accepted questions of the source file. -/
def generalQuestions (source : List SourceQuestion) : List Question :=
  generalQuestionsFrom o ∅ 0 source

/-! ## Dealing -/

/-- One of the four buckets with its place in the pattern. -/
structure Bucket where
  questions : List Question
  count : Nat
  cursor : Nat := 0

/-- `for _ in 0..count` over one bucket, behind `dealt` questions. -/
def Bucket.deal (maximum dealt : Nat) :
    Nat → Bucket → List Question → Bucket × List Question
  | 0, bucket, batch => (bucket, batch)
  | count + 1, bucket, batch =>
      if dealt + batch.length = maximum ∨ bucket.cursor = bucket.questions.length then
        (bucket, batch)
      else
        Bucket.deal maximum dealt count { bucket with cursor := bucket.cursor + 1 }
          (batch ++ bucket.questions[bucket.cursor]?.toList)

/-- The `for` over the pattern. -/
def dealBatch (maximum dealt : Nat) :
    List Bucket → List Question → List Bucket × List Question
  | [], batch => ([], batch)
  | bucket :: buckets, batch =>
      let first := bucket.deal maximum dealt bucket.count batch
      let rest := dealBatch maximum dealt buckets first.2
      (first.1 :: rest.1, rest.2)

/-- The local variables of `build_deck`. -/
structure Table where
  deck : List Question
  buckets : List Bucket
  rng : o.generator.Rng

/-- The `while deck.len() < maximum` loop. Every batch has a question, so
`maximum` passes are enough. -/
def dealBatches (maximum : Nat) : Nat → Table o → Table o
  | 0, table => table
  | passes + 1, table =>
      if table.deck.length < maximum then
        let dealt := dealBatch maximum table.deck.length table.buckets []
        if dealt.2.isEmpty then { table with buckets := dealt.1 }
        else
          let shuffled := o.generator.shuffle dealt.2 table.rng
          dealBatches maximum passes
            { deck := table.deck ++ shuffled.1, buckets := dealt.1, rng := shuffled.2 }
      else table

/-- The second loop: general questions for whatever is still missing. -/
def Bucket.topUp (maximum : Nat) : Nat → Bucket → List Question → List Question
  | 0, _, deck => deck
  | passes + 1, bucket, deck =>
      if deck.length < maximum ∧ bucket.cursor < bucket.questions.length then
        Bucket.topUp maximum passes { bucket with cursor := bucket.cursor + 1 }
          (deck ++ bucket.questions[bucket.cursor]?.toList)
      else deck

/-- The four pools, in the order of the buckets. -/
structure Pools where
  rust : List Question
  temporal : List Question
  math : List Question
  general : List Question

/-- All questions. -/
def Pools.all (pools : Pools) : List Question :=
  pools.rust ++ pools.temporal ++ pools.math ++ pools.general

/-- The pools as they are shuffled, and the generator behind it. -/
def Pools.shuffle (pools : Pools) (rng : o.generator.Rng) : Pools × o.generator.Rng :=
  let rust := o.generator.shuffle pools.rust rng
  let temporal := o.generator.shuffle pools.temporal rust.2
  let math := o.generator.shuffle pools.math temporal.2
  let general := o.generator.shuffle pools.general math.2
  ({ rust := rust.1, temporal := temporal.1, math := math.1, general := general.1 }, general.2)

/-- The pools with the counts of the pattern. -/
def Pools.stocks (pools : Pools) : List (Stock Question) :=
  [⟨pools.rust, 30⟩, ⟨pools.temporal, 15⟩, ⟨pools.math, 15⟩, ⟨pools.general, 40⟩]

/-- Both loops, from the shuffled pools on. -/
def dealDeck (pools : Pools) (rng : o.generator.Rng) (maximum : Nat) :
    List Question × o.generator.Rng :=
  let buckets := pools.stocks.map fun stock => { questions := stock.cards, count := stock.quota }
  let table := dealBatches o maximum maximum { deck := [], buckets, rng }
  match table.buckets[3]? with
  | some general => (general.topUp maximum general.questions.length table.deck, table.rng)
  | none => (table.deck, table.rng)

/-! ## Shuffling the answers -/

/-- The answers are an array, so the shuffle keeps their number. -/
def shuffleFour (answers : Vector String 4) (rng : o.generator.Rng) :
    Vector String 4 × o.generator.Rng :=
  let shuffled := o.generator.shuffle answers.toList rng
  (⟨shuffled.1.toArray, by simp [shuffled, (o.generator.perm answers.toList rng).length_eq]⟩,
    shuffled.2)

/-- Shuffle the answers, and find the right one again. -/
def shuffleAnswers (question : Question) (rng : o.generator.Rng) :
    Except String (Question × o.generator.Rng) :=
  match question.answers[question.correctIndex.toNat]? with
  | none => .error ("invalid correct answer index for " ++ question.id)
  | some correct =>
      let shuffled := shuffleFour o question.answers rng
      match shuffled.1.toList.findIdx? (· == correct) with
      | none => .error ("correct answer disappeared while shuffling " ++ question.id)
      | some index =>
          .ok ({ question with answers := shuffled.1, correctIndex := UInt8.ofNat index },
            shuffled.2)

/-- `shuffle_answers` for every question of the deck. -/
def shuffleDeck : List Question → o.generator.Rng → Except String (List Question)
  | [], _ => .ok []
  | question :: questions, rng => do
      let (question, rng) ← shuffleAnswers o question rng
      let questions ← shuffleDeck questions rng
      return question :: questions

/-- The four pools. -/
def pools (source : List SourceQuestion) : Pools :=
  { rust := rustQuestions
    temporal := temporalQuestions
    math := mathQuestions
    general := generalQuestions o source }

/-- `DECK_SIZE`: the questions dealt to a round (`web/src/main.rs`). -/
def deckSize : Nat := 150

/-- The error of a deck that came out too short. -/
def shortage (maximum available : Nat) : String :=
  "requested " ++ toString maximum ++ " questions, but only " ++ toString available
    ++ " unique questions are available"

/-- The questions dealt, before their answers are shuffled. -/
def dealt (source : List SourceQuestion) (seed : UInt64) (maximum : Nat) :
    List Question × o.generator.Rng :=
  let shuffled := (pools o source).shuffle o (o.generator.seedFromU64 seed)
  dealDeck o shuffled.1 shuffled.2 maximum

/-- The deck: deal from the pools, shuffle, validate. -/
def buildDeck (source : List SourceQuestion) (seed : UInt64) (maximum : Nat) :
    Except String (List Question) := do
  validateQuestions o.toLowercase (pools o source).all
  let (deck, rng) := dealt o source seed maximum
  if deck.length ≠ maximum then throw (shortage maximum deck.length)
  let deck ← shuffleDeck o deck rng
  validateQuestions o.toLowercase deck
  return deck

end DurableTrivia.Web
