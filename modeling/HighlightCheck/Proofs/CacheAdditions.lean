import HighlightCheck.Proofs.CheckOutcome
import HighlightCheck.Proofs.ShellSettings

/-!
# Additions to a command cache

A cache to which names and folders are added runs all the words that it ran before. So in shell code a
wrong command can become a right one, and nothing else changes; and a check that passes and expects
nothing wrong goes on to pass.

* `CommandCache.extend`: a cache with things added. `KnownTo.canRun`: what is runnable stays so.
* `Shell.kept_or_righted`: what happens to a token where more can be run.
* `Token.StandAt.of_kept`, `Tokenizer.check_of_kept`: checks of other tokens that keep those that are
  not wrong.
* `Tokenizer.shell_additions`: shell code and its checks before and after additions.
-/

namespace HighlightCheck

/-! ## Additions to a cache -/

namespace CommandCache

/-- One thing that can be added to a cache. -/
inductive Addition where
  | commandName (name : String)
  | aliasName (name : String)
  | folder (path : String)
  deriving DecidableEq, Repr

/-- The cache with one thing added. -/
def add (c : CommandCache) : Addition → CommandCache
  | .commandName name => c.addCommand name
  | .aliasName name => c.addAlias name
  | .folder path => c.addFolder path

/-- The cache with things added, one after the other. -/
def extend (c : CommandCache) (additions : List Addition) : CommandCache :=
  additions.foldl add c

/-- Whatever `c` knows, `c'` knows too. -/
structure KnownTo (c c' : CommandCache) : Prop where
  commands : ∀ name ∈ c.commands, name ∈ c'.commands
  aliases : ∀ name ∈ c.aliases, name ∈ c'.aliases
  path : ∀ folder ∈ c.path, folder ∈ c'.path

variable {c c' c'' : CommandCache}

theorem KnownTo.refl (c : CommandCache) : c.KnownTo c :=
  ⟨fun _ => id, fun _ => id, fun _ => id⟩

theorem KnownTo.trans (h : c.KnownTo c') (h' : c'.KnownTo c'') : c.KnownTo c'' :=
  ⟨fun name hname => h'.commands name (h.commands name hname),
    fun name hname => h'.aliases name (h.aliases name hname),
    fun folder hfolder => h'.path folder (h.path folder hfolder)⟩

theorem knownTo_add (c : CommandCache) (a : Addition) : c.KnownTo (c.add a) := by
  cases a with
  | commandName name => exact ⟨fun _ h => mem_addCommand.mpr (.inr h), fun _ => id, fun _ => id⟩
  | aliasName name => exact ⟨fun _ => id, fun _ h => mem_addAlias.mpr (.inr h), fun _ => id⟩
  | folder path => exact ⟨fun _ => id, fun _ => id, fun _ => List.mem_append_left [path]⟩

theorem knownTo_extend (c : CommandCache) (additions : List Addition) :
    c.KnownTo (c.extend additions) := by
  induction additions generalizing c with
  | nil => exact .refl c
  | cons a additions ih => exact (c.knownTo_add a).trans (ih (c.add a))

theorem KnownTo.isRegistered (h : c.KnownTo c') {word : String}
    (hword : c.isRegistered word = true) : c'.isRegistered word = true :=
  isRegistered_iff.mpr ((isRegistered_iff.mp hword).imp (h.commands word) (h.aliases word))

/-- What is runnable stays so when more is known. -/
theorem KnownTo.canRun (h : c.KnownTo c') {files : FileTree} {word : String}
    (hword : c.canRun files word = true) : c'.canRun files word = true := by
  obtain ⟨hne, hregistered | hpath | ⟨hslash, folder, hfolder, hexecutable⟩⟩ := canRun_iff.mp hword
  · exact canRun_iff.mpr ⟨hne, .inl (h.isRegistered hregistered)⟩
  · exact canRun_iff.mpr ⟨hne, .inr (.inl hpath)⟩
  · exact canRun_iff.mpr
      ⟨hne, .inr (.inr ⟨hslash, folder, h.path folder hfolder, hexecutable⟩)⟩

end CommandCache

/-! ## Tokens where more can be run -/

namespace Shell

/-- What `a` can run `b` can run too, and they see the same files. -/
structure Lookup.RunsIn (a b : Lookup) : Prop where
  onDisk : b.onDisk = a.onDisk
  canRun : ∀ word, a.canRun word = true → b.canRun word = true

variable {a b : Lookup} {code : String} {i : Nat} {t t' : Token}

/-- Where more can be run, a word in command position can change its kind from wrong to right, and
nothing else changes. -/
theorem Lexeme.kind_of_runsIn (l : Lexeme) (hab : a.RunsIn b) :
    l.kind (some b) = l.kind (some a) ∨
      l.IsWord true ∧ l.kind (some a) = .error ∧ l.kind (some b) = .keyword := by
  rcases l.isWord_cases with h | h | h
  · rw [kind_of_command _ h, kind_of_command _ h, Option.elim_some, Option.elim_some]
    by_cases ha : a.canRun (String.ofList l.chars) = true
    · rw [if_pos ha, if_pos (hab.canRun _ ha)]
      exact .inl rfl
    rw [if_neg ha]
    split
    · exact .inr ⟨h, rfl, rfl⟩
    · exact .inl rfl
  · rw [kind_of_argument _ h, kind_of_argument _ h, Option.any_some, Option.any_some, hab.onDisk]
    exact .inl rfl
  · exact .inl (kind_of_not_isWord h _ _)

/-- Where more can be run, a token stays as it is or turns from wrong to right. -/
theorem kept_or_righted (hab : a.RunsIn b) (h : (tokens (some a) code)[i]? = some t)
    (h' : (tokens (some b) code)[i]? = some t') :
    t' = t ∨ WordAt code i true ∧ t.kind = .error ∧ t' = { t with kind := .keyword } := by
  obtain ⟨l, hl, hkind, hkind', hstart, hstop⟩ := exists_lexeme h h'
  rcases t with ⟨kind, start, stop⟩
  rcases t' with ⟨kind', start', stop'⟩
  cases hstart
  cases hstop
  rcases l.kind_of_runsIn hab with hsame | ⟨hword, herror, hkeyword⟩
  · refine .inl ?_
    rw [Token.mk.injEq]
    exact ⟨hkind'.trans (hsame.trans hkind.symm), rfl, rfl⟩
  · refine .inr ⟨⟨l, hl, hword⟩, hkind.trans herror, ?_⟩
    rw [Token.mk.injEq]
    exact ⟨hkind'.trans hkeyword, rfl, rfl⟩

/-- Where more can be run, a token that is not wrong stays. -/
theorem kept_of_ne_error (hab : a.RunsIn b) (h : (tokens (some a) code)[i]? = some t)
    (hne : t.kind ≠ .error) :
    (tokens (some b) code)[i]? = some t := by
  have hlt : i < (tokens (some b) code).length := by
    rw [length_tokens, ← length_tokens (some a)]
    exact (List.getElem?_eq_some_iff.mp h).1
  have h' := List.getElem?_eq_getElem hlt
  rcases kept_or_righted hab h h' with hsame | ⟨-, herror, -⟩
  · rw [h', hsame]
  · exact absurd herror hne

end Shell

/-! ## Checks of tokens that are kept -/

namespace Token

variable {code : String} {tokens tokens' : List Token} {expected : List Span} {places : List Nat}

/-- A token that does not resolve to an error resolves to its own kind. -/
theorem resolve_kind {t : Token} (h : (t.resolve code).kind ≠ .error) :
    (t.resolve code).kind = t.kind := by
  unfold resolve at h ⊢
  split
  · rfl
  · rename_i hnone
    rw [hnone] at h
    exact absurd rfl h

/-- Expected spans that are no errors are found at the same places among other tokens, if those keep
all tokens that are no errors. -/
theorem StandAt.of_kept (h : StandAt code tokens expected places)
    (hexpected : ∀ wanted ∈ expected, wanted.kind ≠ .error)
    (hkept : ∀ (i : Nat) (t : Token), tokens[i]? = some t → t.kind ≠ .error →
      tokens'[i]? = some t) :
    StandAt code tokens' expected places := by
  obtain ⟨hinc, hresolved⟩ := h
  refine ⟨hinc, ?_⟩
  clear hinc
  induction hresolved with
  | nil => exact .nil
  | cons hplace _ ih =>
    obtain ⟨hwanted, hexpected⟩ := List.forall_mem_cons.mp hexpected
    obtain ⟨t, ht, hkind, htext⟩ := hplace
    have hne := resolve_kind (fun herror => hwanted (hkind.symm.trans herror))
    refine .cons ⟨t, hkept _ t ht ?_, hkind, htext⟩ (ih hexpected)
    rwa [← hne, hkind]

end Token

namespace Tokenizer

/-- A check passes if its comparison does and its record makes no listener fail. -/
theorem check_eq_ok_iff {t : Tokenizer} {code : String} {expected : List Span} {h : Host}
    {tokens : List Token} (ht : t.tokenize h.setting code = .ok tokens) :
    (t.check code expected h).1 = .ok (.ok ()) ↔
      (h.log.emit (t.verdict code expected tokens)).1 = .ok () ∧
        Mismatch.compare code tokens expected = .ok () := by
  rw [check_apply ht]
  cases (h.log.emit (t.verdict code expected tokens)).1 <;> simp [Except.map]

/-- A check that passes also passes on other tokens, as many, if those keep all tokens that are no
errors: its record is the same. -/
theorem check_of_kept {t : Tokenizer} {code : String} {expected : List Span} {h h' : Host}
    {tokens tokens' : List Token} (ht : t.tokenize h.setting code = .ok tokens)
    (ht' : t.tokenize h'.setting code = .ok tokens') (hlength : tokens'.length = tokens.length)
    (hlog : h'.log = h.log ∨ h'.log.Reliable)
    (hexpected : ∀ wanted ∈ expected, wanted.kind ≠ .error)
    (hkept : ∀ (i : Nat) (t : Token), tokens[i]? = some t → t.kind ≠ .error →
      tokens'[i]? = some t)
    (hpass : (t.check code expected h).1 = .ok (.ok ())) :
    (t.check code expected h').1 = .ok (.ok ()) := by
  obtain ⟨hemit, hcompare⟩ := (check_eq_ok_iff ht).mp hpass
  have hcompare' : Mismatch.compare code tokens' expected = .ok () := by
    obtain ⟨places, hplaces⟩ := Mismatch.compare_eq_ok_iff_standAt.mp hcompare
    exact Mismatch.compare_eq_ok_iff_standAt.mpr ⟨places, hplaces.of_kept hexpected hkept⟩
  have hverdict : t.verdict code expected tokens' = t.verdict code expected tokens := by
    unfold verdict
    rw [hcompare, hcompare', hlength]
  refine (check_eq_ok_iff ht').mpr ⟨?_, hcompare'⟩
  rcases hlog with hlog | hreliable
  · rw [hlog, hverdict, hemit]
  · exact LogSlot.emit_of_reliable hreliable _

open Shell

/-- **Additions to the cache.** When names of commands and aliases and folders are added to the cache,
the tokens stay as many and stand at the same places. Some words in command position that were wrong
are right, and nothing else changes. So a check that expects nothing wrong, and passes, still passes. -/
theorem shell_additions (code : String) (c : CommandCache) (additions : List CommandCache.Addition)
    (files : FileTree) :
    ∃ tokens tokens',
      shell.tokenize ⟨some c, files⟩ code = .ok tokens ∧
      shell.tokenize ⟨some (c.extend additions), files⟩ code = .ok tokens' ∧
      tokens'.length = tokens.length ∧
      (∀ (i : Nat) (t t' : Token), tokens[i]? = some t → tokens'[i]? = some t' →
        t' = t ∨ WordAt code i true ∧ t.kind = .error ∧ t' = { t with kind := .keyword }) ∧
      ∀ expected (h h' : Host), h.setting = ⟨some c, files⟩ →
        h'.setting = ⟨some (c.extend additions), files⟩ →
        (h'.log = h.log ∨ h'.log.Reliable) →
        (∀ wanted ∈ expected, wanted.kind ≠ .error) →
        (shell.check code expected h).1 = .ok (.ok ()) →
        (shell.check code expected h').1 = .ok (.ok ()) := by
  have hruns : (c.lookup files).RunsIn ((c.extend additions).lookup files) :=
    ⟨rfl, fun _ => (c.knownTo_extend additions).canRun⟩
  have hlength := (length_tokens (some ((c.extend additions).lookup files)) code).trans
    (length_tokens (some (c.lookup files)) code).symm
  refine ⟨_, _, rfl, rfl, hlength, fun i t t' => kept_or_righted hruns, ?_⟩
  intro expected h h' hsetting hsetting' hlog hexpected hpass
  exact check_of_kept (by rw [hsetting]; rfl) (by rw [hsetting']; rfl) hlength hlog hexpected
    (fun i t => kept_of_ne_error hruns) hpass

/-- A host on which `c` is loaded and no listener is set. -/
def holding (c : CommandCache) : Host :=
  { Host.fresh .empty with guards := GuardStack.empty.push c }

theorem check_holding_iff {c : CommandCache} {code : String} {expected : List Span} :
    (shell.check code expected (holding c)).1 = .ok (.ok ()) ↔
      (Mismatch.compare code (tokens (some (c.lookup .empty)) code) expected).isOk = true := by
  have htokens : shell.tokenize (holding c).setting code =
      .ok (tokens (some (c.lookup .empty)) code) := rfl
  have hemit (r : LogRecord) : ((holding c).log.emit r).1 = .ok () := by
    rw [LogSlot.emit_of_none rfl]
  rw [check_eq_ok_iff htokens, hemit]
  cases Mismatch.compare code (tokens (some (c.lookup .empty)) code) expected <;>
    simp [Except.isOk, Except.toBool]

/-- A cache that knows one command. -/
def pwdOnly : CommandCache :=
  CommandCache.empty.addCommand "pwd"

/-- The same with another command, and a folder that is not there. -/
def pwdAndLs : CommandCache :=
  pwdOnly.extend [.folder "bin", .commandName "ls"]

/-- A command that becomes known leaves a check of the others as it is, but not one that expects it to
be wrong. -/
theorem shell_additions_of_pipeline :
    (shell.check "ls | pwd" [⟨.operator, "|"⟩, ⟨.keyword, "pwd"⟩] (holding pwdOnly)).1 =
      .ok (.ok ()) ∧
    (shell.check "ls | pwd" [⟨.operator, "|"⟩, ⟨.keyword, "pwd"⟩] (holding pwdAndLs)).1 =
      .ok (.ok ()) ∧
    (shell.check "ls | pwd" [⟨.error, "ls"⟩] (holding pwdOnly)).1 = .ok (.ok ()) ∧
    (shell.check "ls | pwd" [⟨.error, "ls"⟩] (holding pwdAndLs)).1 ≠ .ok (.ok ()) := by
  have hpass : (shell.check "ls | pwd" [⟨.operator, "|"⟩, ⟨.keyword, "pwd"⟩] (holding pwdOnly)).1 =
      .ok (.ok ()) := check_holding_iff.mpr (by decide +kernel)
  obtain ⟨_, _, _, _, _, _, htransfer⟩ :=
    shell_additions "ls | pwd" pwdOnly [.folder "bin", .commandName "ls"] .empty
  refine ⟨hpass, htransfer _ (holding pwdOnly) (holding pwdAndLs) rfl rfl (.inl rfl) (by decide) hpass,
    check_holding_iff.mpr (by decide +kernel), fun h => ?_⟩
  exact absurd (check_holding_iff.mp h) (by decide +kernel)

end Tokenizer

end HighlightCheck
