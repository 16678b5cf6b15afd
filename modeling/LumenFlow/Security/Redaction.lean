import LumenFlow.Kit.Threading
import LumenFlow.Security.Numbers
import Mathlib.Data.Fintype.Card

/-!
# What reaches the logs

`redactSecrets` of the SDK walks a value, which may refer to objects that refer to each other, and
makes a tree of it that can be logged.  What is held under the name of a secret is not looked at.
-/

namespace LumenFlow

open Kit

namespace Security

def redacted : String := "[REDACTED]"

def circular : String := "[Circular]"

/-- A value: a string, an object at its address, or anything else. -/
inductive JsValue (Other : Type) (size : Nat) where
  | text (text : String)
  | other (value : Other)
  | ref (address : Fin size)
  deriving DecidableEq

/-- An object, which is exotic when it is no array and its prototype is that of a class: then only
its string form is logged. -/
inductive JsObject (Other : Type) (size : Nat) where
  | array (elements : List (JsValue Other size))
  | plain (entries : List (String × JsValue Other size))
  | exotic (text : String)

abbrev Heap (Other : Type) (size : Nat) : Type := Fin size → JsObject Other size

/-- What is logged. -/
inductive LogValue (Other : Type) where
  | text (text : String)
  | other (value : Other)
  | array (elements : List (LogValue Other))
  | plain (entries : List (String × LogValue Other))

/-- How strings are put into lower case, and how the secrets inside a string are replaced. -/
structure Redactor where
  toLowerCase : String → String
  redactString : String → String

/-- Each run of hyphens and white space becomes one underscore. -/
def underscored : Bool → List Char → List Char
  | _, [] => []
  | within, char :: rest =>
      if char = '-' || isSpace char then
        if within then underscored true rest else '_' :: underscored true rest
      else char :: underscored false rest

def Redactor.normalizeKey (redactor : Redactor) (key : String) : String :=
  String.ofList (underscored false (redactor.toLowerCase key).toList)

def Redactor.secretKeys (redactor : Redactor) : List String :=
  ["password", "passwd", "secret", "secretkey", "secret_key", "apikey", "api_key", "token",
    "access_token", "refresh_token", "auth_token", "authorization", "cookie", "set-cookie",
    "sessionid", "session_id", "privatekey", "private_key", "seed", "mnemonic", "adminkey",
    "admin_key", "merchantkey", "merchant_key", "payerkey", "payer_key", "sourceaccount",
    "source_account"].map redactor.normalizeKey

/-- The value under the key is replaced whatever it is. -/
def Redactor.isSecret (redactor : Redactor) (key : String) : Bool :=
  redactor.normalizeKey key ∈ redactor.secretKeys

variable {Other : Type} {size : Nat}

/-- The entry, when its value has been walked by the given function.  Setting `__proto__` makes no
entry, but its value has been walked. -/
def redactEntry (redactor : Redactor)
    (walk : Finset (Fin size) → JsValue Other size →
      Option (Finset (Fin size) × LogValue Other))
    (seen : Finset (Fin size)) (entry : String × JsValue Other size) :
    Option (Finset (Fin size) × (String × LogValue Other)) :=
  if redactor.isSecret entry.1 then some (seen, (entry.1, .text redacted))
  else (walk seen entry.2).map fun walked => (walked.1, (entry.1, walked.2))

/-- The entries of an object that is made by setting them one by one. -/
def assigned (entries : List (String × LogValue Other)) : List (String × LogValue Other) :=
  entries.filter (·.1 ≠ "__proto__")

/-- The walk, given how deep it may go. -/
def redactValue (redactor : Redactor) (heap : Heap Other size) :
    Nat → Finset (Fin size) → JsValue Other size → Option (Finset (Fin size) × LogValue Other)
  | _, seen, .text text => some (seen, .text (redactor.redactString text))
  | _, seen, .other value => some (seen, .other value)
  | 0, seen, .ref address => if address ∈ seen then some (seen, .text circular) else none
  | depth + 1, seen, .ref address =>
      if address ∈ seen then some (seen, .text circular)
      else
        match heap address with
        | .array elements =>
            (threaded (redactValue redactor heap depth) (insert address seen) elements).map
              fun walked => (walked.1, .array walked.2)
        | .exotic text => some (insert address seen, .text (redactor.redactString text))
        | .plain entries =>
            (threaded (redactEntry redactor (redactValue redactor heap depth))
              (insert address seen) entries).map
              fun walked => (walked.1, .plain (assigned walked.2))

/-- No walk goes deeper than there are objects. -/
def redactSecrets (redactor : Redactor) (heap : Heap Other size) (value : JsValue Other size) :
    Option (LogValue Other) :=
  (redactValue redactor heap size ∅ value).map Prod.snd

/-- What a logger that is wrapped passes on: each argument is redacted on its own. -/
def redactingLogger (redactor : Redactor) (heap : Heap Other size)
    (arguments : List (JsValue Other size)) : Option (List (LogValue Other)) :=
  arguments.mapM (redactSecrets redactor heap)

/-! ## Every value can be logged -/

section Total

variable {redactor : Redactor} {heap : Heap Other size}

theorem card_compl_insert_lt {seen : Finset (Fin size)} {address : Fin size}
    (fresh : address ∉ seen) : (insert address seen)ᶜ.card < seenᶜ.card := by
  apply Finset.card_lt_card
  rw [Finset.compl_insert]
  exact Finset.erase_ssubset (Finset.mem_compl.mpr fresh)

/-- A walk that may go as deep as there are objects that it has not seen comes to its end. -/
theorem redactValue_total (redactor : Redactor) (heap : Heap Other size) {depth : Nat}
    {seen : Finset (Fin size)} (room : seenᶜ.card ≤ depth) (value : JsValue Other size) :
    ∃ later log, redactValue redactor heap depth seen value = some (later, log) ∧
      seen ⊆ later := by
  induction depth generalizing seen value with
  | zero =>
      cases value with
      | text text => exact ⟨seen, _, by rw [redactValue], subset_rfl⟩
      | other value => exact ⟨seen, _, by rw [redactValue], subset_rfl⟩
      | ref address =>
          have all : seenᶜ = ∅ := Finset.card_eq_zero.mp (Nat.le_zero.mp room)
          have known : address ∈ seen := by
            rw [Finset.compl_eq_empty_iff] at all
            rw [all]
            exact Finset.mem_univ address
          exact ⟨seen, _, by rw [redactValue, if_pos known], subset_rfl⟩
  | succ depth inductionHypothesis =>
      cases value with
      | text text => exact ⟨seen, _, by rw [redactValue], subset_rfl⟩
      | other value => exact ⟨seen, _, by rw [redactValue], subset_rfl⟩
      | ref address =>
          by_cases known : address ∈ seen
          · exact ⟨seen, _, by rw [redactValue, if_pos known], subset_rfl⟩
          · have fewer : ∀ later, insert address seen ⊆ later → laterᶜ.card ≤ depth := by
              intro later more
              have left := Finset.card_le_card (Finset.compl_subset_compl.mpr more)
              have less := card_compl_insert_lt known
              omega
            have walks : ∀ later (value : JsValue Other size), insert address seen ⊆ later →
                ∃ next log, redactValue redactor heap depth later value = some (next, log) ∧
                  insert address seen ⊆ next := by
              intro later value more
              obtain ⟨next, log, walked, grown⟩ := inductionHypothesis (fewer later more) value
              exact ⟨next, log, walked, more.trans grown⟩
            rw [redactValue, if_neg known]
            cases heap address with
            | array elements =>
                obtain ⟨next, logs, walked, grown⟩ := threaded_total walks subset_rfl elements
                refine ⟨next, .array logs, ?_, (Finset.subset_insert _ _).trans grown⟩
                dsimp only
                rw [walked]
                rfl
            | exotic text => exact ⟨_, _, rfl, Finset.subset_insert _ _⟩
            | plain entries =>
                have works : ∀ later (entry : String × JsValue Other size),
                    insert address seen ⊆ later →
                    ∃ next log, redactEntry redactor (redactValue redactor heap depth) later entry =
                      some (next, log) ∧ insert address seen ⊆ next := by
                  intro later entry more
                  unfold redactEntry
                  split
                  · exact ⟨later, _, rfl, more⟩
                  · obtain ⟨next, log, walked, grown⟩ := walks later entry.2 more
                    exact ⟨next, _, by rw [walked]; rfl, grown⟩
                obtain ⟨next, logs, walked, grown⟩ := threaded_total works subset_rfl entries
                refine ⟨next, .plain (assigned logs), ?_, (Finset.subset_insert _ _).trans grown⟩
                dsimp only
                rw [walked]
                rfl

/-- Nothing under the name of a secret, and no string that has not been searched for secrets. -/
inductive Clean (redactor : Redactor) : LogValue Other → Prop where
  | searched (text : String) : Clean redactor (.text (redactor.redactString text))
  | redacted : Clean redactor (.text redacted)
  | circular : Clean redactor (.text circular)
  | other (value : Other) : Clean redactor (.other value)
  | array {elements : List (LogValue Other)}
      (clean : ∀ element ∈ elements, Clean redactor element) : Clean redactor (.array elements)
  | plain {entries : List (String × LogValue Other)}
      (clean : ∀ entry ∈ entries, Clean redactor entry.2)
      (hidden : ∀ entry ∈ entries, redactor.isSecret entry.1 = true →
        entry.2 = .text Security.redacted) :
      Clean redactor (.plain entries)

theorem forall_mem_of_forall₂ {Item Result : Type} {property : Result → Prop} {items : List Item}
    {results : List Result} (all : List.Forall₂ (fun _ result => property result) items results) :
    ∀ result ∈ results, property result := by
  induction all with
  | nil => exact fun result member => absurd member List.not_mem_nil
  | cons head tail inductionHypothesis => exact List.forall_mem_cons.mpr ⟨head, inductionHypothesis⟩

theorem redactValue_clean {depth : Nat} {seen later : Finset (Fin size)}
    {value : JsValue Other size} {log : LogValue Other}
    (walked : redactValue redactor heap depth seen value = some (later, log)) :
    Clean redactor log := by
  induction depth generalizing seen later value log with
  | zero =>
      cases value with
      | text text =>
          obtain ⟨_, rfl⟩ := Prod.mk.inj (Option.some.inj walked)
          exact .searched text
      | other value =>
          obtain ⟨_, rfl⟩ := Prod.mk.inj (Option.some.inj walked)
          exact .other value
      | ref address =>
          rw [redactValue] at walked
          split at walked
          · obtain ⟨_, rfl⟩ := Prod.mk.inj (Option.some.inj walked)
            exact .circular
          · cases walked
  | succ depth inductionHypothesis =>
      cases value with
      | text text =>
          obtain ⟨_, rfl⟩ := Prod.mk.inj (Option.some.inj walked)
          exact .searched text
      | other value =>
          obtain ⟨_, rfl⟩ := Prod.mk.inj (Option.some.inj walked)
          exact .other value
      | ref address =>
          rw [redactValue] at walked
          split at walked
          · obtain ⟨_, rfl⟩ := Prod.mk.inj (Option.some.inj walked)
            exact .circular
          · cases object : heap address with
            | array elements =>
                rw [object] at walked
                obtain ⟨⟨_, logs⟩, all, same⟩ := Option.map_eq_some_iff.mp walked
                obtain ⟨_, rfl⟩ := Prod.mk.inj same
                apply Clean.array
                apply forall_mem_of_forall₂
                exact threaded_all (fun _ _ _ _ single => inductionHypothesis single) all
            | exotic text =>
                rw [object] at walked
                obtain ⟨_, rfl⟩ := Prod.mk.inj (Option.some.inj walked)
                exact .searched text
            | plain entries =>
                rw [object] at walked
                obtain ⟨⟨_, logs⟩, all, same⟩ := Option.map_eq_some_iff.mp walked
                obtain ⟨_, rfl⟩ := Prod.mk.inj same
                have each : ∀ seen (entry : String × JsValue Other size) next
                    (result : String × LogValue Other),
                    redactEntry redactor (redactValue redactor heap depth) seen entry =
                      some (next, result) →
                    Clean redactor result.2 ∧ (redactor.isSecret result.1 = true →
                      result.2 = .text Security.redacted) := by
                  intro seen entry next result single
                  unfold redactEntry at single
                  split at single
                  · obtain ⟨_, rfl⟩ := Prod.mk.inj (Option.some.inj single)
                    exact ⟨.redacted, fun _ => rfl⟩
                  · next plainly =>
                      obtain ⟨⟨_, inner⟩, walked, same⟩ := Option.map_eq_some_iff.mp single
                      obtain ⟨_, rfl⟩ := Prod.mk.inj same
                      exact ⟨inductionHypothesis walked, fun secret => absurd secret plainly⟩
                have both := forall_mem_of_forall₂ (threaded_all each all)
                have kept : ∀ entry ∈ assigned logs, entry ∈ logs :=
                  fun entry member => (List.mem_filter.mp member).1
                exact .plain (fun entry member => (both entry (kept entry member)).1)
                  fun entry member => (both entry (kept entry member)).2

/-- Whatever is to be logged, also when objects refer to themselves, it becomes a tree without
secrets. -/
theorem redactingLogger_clean (redactor : Redactor) (heap : Heap Other size)
    (arguments : List (JsValue Other size)) :
    ∃ logs, redactingLogger redactor heap arguments = some logs ∧
      logs.length = arguments.length ∧ ∀ log ∈ logs, Clean redactor log := by
  have room : (∅ : Finset (Fin size))ᶜ.card ≤ size := by simp
  induction arguments with
  | nil => exact ⟨[], rfl, rfl, fun log member => absurd member List.not_mem_nil⟩
  | cons argument rest inductionHypothesis =>
      obtain ⟨logs, passed, same, clean⟩ := inductionHypothesis
      obtain ⟨later, log, walked, _⟩ := redactValue_total redactor heap room argument
      refine ⟨log :: logs, ?_, congrArg (· + 1) same, ?_⟩
      · unfold redactingLogger at passed ⊢
        rw [List.mapM_cons, redactSecrets, walked, passed]
        rfl
      · exact List.forall_mem_cons.mpr ⟨redactValue_clean walked, clean⟩

end Total

/-! ## The log does not depend on secrets -/

section Hiding

/-- Two values that look the same in a log, whose objects are among those that matter. -/
inductive AlikeValue (redactor : Redactor) (live : Set (Fin size)) :
    JsValue Other size → JsValue Other size → Prop where
  | text {first second : String}
      (same : redactor.redactString first = redactor.redactString second) :
      AlikeValue redactor live (.text first) (.text second)
  | other (value : Other) : AlikeValue redactor live (.other value) (.other value)
  | ref {address : Fin size} (matters : address ∈ live) :
      AlikeValue redactor live (.ref address) (.ref address)

/-- What is held under the name of a secret may differ. -/
def AlikeEntry (redactor : Redactor) (live : Set (Fin size))
    (first second : String × JsValue Other size) : Prop :=
  first.1 = second.1 ∧
    (redactor.isSecret first.1 = false → AlikeValue redactor live first.2 second.2)

inductive AlikeObject (redactor : Redactor) (live : Set (Fin size)) :
    JsObject Other size → JsObject Other size → Prop where
  | array {first second : List (JsValue Other size)}
      (alike : List.Forall₂ (AlikeValue redactor live) first second) :
      AlikeObject redactor live (.array first) (.array second)
  | plain {first second : List (String × JsValue Other size)}
      (alike : List.Forall₂ (AlikeEntry redactor live) first second) :
      AlikeObject redactor live (.plain first) (.plain second)
  | exotic {first second : String}
      (same : redactor.redactString first = redactor.redactString second) :
      AlikeObject redactor live (.exotic first) (.exotic second)

/-- The objects that matter differ in their secrets only. -/
def AlikeHeaps (redactor : Redactor) (live : Set (Fin size)) (first second : Heap Other size) :
    Prop :=
  ∀ address ∈ live, AlikeObject redactor live (first address) (second address)

variable {redactor : Redactor} {live : Set (Fin size)} {first second : Heap Other size}

theorem redactEntry_alike
    {walk other : Finset (Fin size) → JsValue Other size →
      Option (Finset (Fin size) × LogValue Other)}
    (agree : ∀ seen value second, AlikeValue redactor live value second →
      walk seen value = other seen second)
    (seen : Finset (Fin size)) (entry second : String × JsValue Other size)
    (alike : AlikeEntry redactor live entry second) :
    redactEntry redactor walk seen entry = redactEntry redactor other seen second := by
  obtain ⟨named, values⟩ := alike
  unfold redactEntry
  rw [← named]
  split
  · rfl
  · next plainly => rw [agree seen _ _ (values (Bool.eq_false_of_not_eq_true plainly))]

theorem redactValue_alike (heaps : AlikeHeaps redactor live first second) {depth : Nat}
    (seen : Finset (Fin size)) (value other : JsValue Other size)
    (alike : AlikeValue redactor live value other) :
    redactValue redactor first depth seen value = redactValue redactor second depth seen other := by
  induction depth generalizing seen value other with
  | zero =>
      cases alike with
      | text same => rw [redactValue, redactValue, same]
      | other value => rw [redactValue, redactValue]
      | ref matters => rw [redactValue, redactValue]
  | succ depth inductionHypothesis =>
      cases alike with
      | text same => rw [redactValue, redactValue, same]
      | other value => rw [redactValue, redactValue]
      | @ref address matters =>
          rw [redactValue, redactValue]
          have objects := heaps address matters
          generalize first address = here at objects ⊢
          generalize second address = there at objects ⊢
          split
          · rfl
          · cases objects with
            | array elements =>
                dsimp only
                rw [threaded_congr inductionHypothesis elements]
            | plain entries =>
                dsimp only
                rw [threaded_congr (redactEntry_alike inductionHypothesis) entries]
            | exotic same =>
                dsimp only
                rw [same]

/-- The log is the same when only secrets differ, however deep they are and whatever they refer
to. -/
theorem redactingLogger_hides (heaps : AlikeHeaps redactor live first second)
    {arguments others : List (JsValue Other size)}
    (alike : List.Forall₂ (AlikeValue redactor live) arguments others) :
    redactingLogger redactor first arguments = redactingLogger redactor second others := by
  unfold redactingLogger
  induction alike with
  | nil => rfl
  | cons head tail inductionHypothesis =>
      rw [List.mapM_cons, List.mapM_cons, inductionHypothesis, redactSecrets, redactSecrets,
        redactValue_alike heaps ∅ _ _ head]

/-- A request that refers to itself and holds a token, which is an object too. -/
def Sample.requestWith (token : String) : Heap Unit 2
  | 0 => .plain [("Access-Token", .ref 1), ("request", .ref 0)]
  | 1 => .array [.text token]

/-- A redactor for ASCII names. -/
def Sample.asciiRedactor : Redactor where
  toLowerCase key := String.ofList (key.toList.map Char.toLower)
  redactString text := text

theorem redactingLogger_hides_sample :
    redactingLogger Sample.asciiRedactor (Sample.requestWith "first") [.ref 0] =
      redactingLogger Sample.asciiRedactor (Sample.requestWith "second") [.ref 0] := by
  have token : Sample.asciiRedactor.isSecret "Access-Token" = true := by decide +kernel
  have heaps : AlikeHeaps Sample.asciiRedactor {0} (Sample.requestWith "first")
      (Sample.requestWith "second") := by
    intro address live
    obtain rfl := live
    refine .plain (.cons ⟨rfl, fun plainly => ?_⟩ (.cons ⟨rfl, fun _ => .ref rfl⟩ .nil))
    exact absurd (token.symm.trans plainly) Bool.noConfusion
  exact redactingLogger_hides heaps (.cons (.ref rfl) .nil)

end Hiding

end Security

end LumenFlow
