import FaultChain.Demo
import FaultChain.Proofs.Towers
import Mathlib.Data.Nat.Digits.Defs

/-!
# The chain demonstration, for every depth

The demonstration wraps an error in as many layers as its environment asks for, shows the chain, and
takes everything down.  Each layer takes the place of the one before, so there is a handle on the
last one and one on the innermost error, and on nothing between; giving up these two has to be
enough for the context to be given up as well.  `Demo.run_of_environment` says what is written then,
for every number of layers.

### What is load-bearing

What the demonstration builds is a tower (`Store.Raised`), held at the top and at the bottom, and
everything that happens to it is a lemma about towers.  What is left to do here is the recursion
over the layers (`wrap_raised`), the lines of the walk (`walkFrom_lines`), and that there is room
for all of it: a document shows no more links than the depth limit, and a layer is named by a word
of 64 bits (`size_document_le`).

### Why there is always room

Requests are granted up to a size that no ordinary machine has, so it has to be shown that nothing
the demonstration asks for comes near it.  A layer is named by its number, which has no more than
twenty digits, and every other text is fixed; so a link has a document of a bounded size, and a
document only so many of them, however many layers there are.  The bounds are far from sharp: six
characters for each of a text and four bytes for each of these.
-/

namespace FaultChain

open Memory (Backend)

namespace Document

/-! ## How long a document can be

Bounds that are easy to add up, and not the least ones: a multiple of the number of characters for a
text, and a multiple of a bound for the links for a document.
-/

/-- No character takes more than four bytes. -/
theorem textSize_le (cs : List Char) : Message.textSize cs ≤ 4 * cs.length := by
  induction cs with
  | nil => exact Nat.le_refl 0
  | cons c cs ih =>
      have hc := c.utf8Size_le_four
      rw [Message.textSize_cons, List.length_cons]
      omega

/-- Nor does its escape have more than six characters. -/
theorem length_escape_le (cs : List Char) : (escape cs).length ≤ 6 * cs.length := by
  induction cs with
  | nil => exact Nat.le_refl 0
  | cons c cs ih =>
      have hc : (escapeChar c).length ≤ 6 := by
        unfold escapeChar
        split_ifs <;> simp
      rw [escape, List.flatMap_cons, List.length_append, List.length_cons]
      rw [escape] at ih
      omega

/-- No character of a text takes more than four bytes, nor more than six characters. -/
theorem size_string_le (s : String) : (string s).utf8ByteSize ≤ 24 * s.length + 2 := by
  have hescaped := textSize_le (escape s.toList)
  have hlength := length_escape_le s.toList
  have hquote : "\"".utf8ByteSize = 1 := by decide
  rw [String.length_toList] at hlength
  rw [Message.textSize] at hescaped
  rw [string, String.utf8ByteSize_append, String.utf8ByteSize_append, hquote]
  omega

/-- A document is no longer than its objects allow: a bound for the fields of a link, and a few
bytes around them, for as many links as are written. -/
theorem size_nested_le {n : Nat} (budget : Nat) (top : Link) {causes : List Link}
    (hfields : ∀ l ∈ top :: causes, (fields l).utf8ByteSize ≤ n) :
    (nested budget top causes).utf8ByteSize ≤ (budget + 1) * (n + 29) := by
  have hbraces : "\x7b".utf8ByteSize = 1 ∧ "\x7d".utf8ByteSize = 1 := by decide
  have hkey : causeKey.utf8ByteSize = 9 := by decide
  have hmarker : marker.utf8ByteSize = 18 := by decide
  induction causes generalizing budget top with
  | nil =>
      have htop := hfields top List.mem_cons_self
      have hone : n + 29 ≤ (budget + 1) * (n + 29) := Nat.le_mul_of_pos_left _ (Nat.succ_pos _)
      rw [nested]
      simp only [String.utf8ByteSize_append, hbraces, String.utf8ByteSize_empty]
      omega
  | cons cause rest ih =>
      have htop := hfields top List.mem_cons_self
      cases budget with
      | zero =>
          rw [nested]
          simp only [String.utf8ByteSize_append, hbraces, hkey, hmarker]
          omega
      | succ more =>
          have hinner := ih more cause fun l hl => hfields l (List.mem_cons_of_mem top hl)
          rw [nested]
          simp only [String.utf8ByteSize_append, hbraces, hkey]
          rw [Nat.succ_mul]
          omega

end Document

namespace Demo

/-! ## The chain

What the demonstration builds, as a chain, without any store.  Its texts are fixed but for the
number of a layer.
-/

/-- The chain that the demonstration builds: so many layers, the last one outermost, around the
policy error and the error that caused it. -/
def chain : Nat → Chain
  | 0 => { top := policy.link, causes := [leaf.link] }
  | n + 1 => { top := (layer n).link, causes := (chain n).links }

/-- The links of the chain, outermost first: the layers, counting down, and the two errors
inside. -/
theorem links_chain (n : Nat) :
    (chain n).links =
      (List.range n).reverse.map (fun i => (layer i).link) ++ [policy.link, leaf.link] := by
  induction n with
  | zero => rfl
  | succ n ih =>
      rw [List.range_succ, List.reverse_append, List.reverse_singleton, List.singleton_append,
        List.map_cons, List.cons_append, ← ih]
      rfl

example : (chain 2).links.map Link.display =
    ["[GENERIC/UNKNOWN] layer 1", "[GENERIC/UNKNOWN] layer 0",
      "[POLICY/POLICY_VIOLATION] Policy blocked update for refs/main",
      "[GIT/NOT_FOUND] Object abc123 not found"] := by
  decide

/-- The digits of a word of 64 bits: there are no more than twenty of them. -/
theorem length_toString_le {i : Nat} (hi : i < 2 ^ 64) : (toString i).length ≤ 20 :=
  Nat.repr_length i 20 (by decide) (Nat.lt_trans hi (by decide))

/-- A layer is named by its number, so its message is short. -/
theorem length_message_le {i : Nat} (hi : i < 2 ^ 64) : (layer i).link.message.length ≤ 26 := by
  have hdigits := length_toString_le hi
  have hword : "layer ".length = 6 := by decide
  have hmessage : (layer i).link.message = "layer " ++ toString i ++ "" := rfl
  rw [hmessage, String.append_empty, String.length_append]
  omega

/-- The fields of a layer are short, however far out it is. -/
theorem size_fields_layer_le {i : Nat} (hi : i < 2 ^ 64) :
    (Document.fields (layer i).link).utf8ByteSize ≤ 1000 := by
  have hmessage := length_message_le hi
  have hstring := Document.size_string_le (layer i).link.message
  have hbefore : ("\"domain\":" ++ Document.string (layer 0).link.domain.name ++ ",\"code\":" ++
      Document.string (layer 0).link.code.name ++ ",\"flags\":" ++
      Document.flagsArray (layer 0).link.flags ++ ",\"message\":").utf8ByteSize ≤ 100 := by
    decide
  have hbehind : (Document.locationFields (location 37)).utf8ByteSize ≤ 100 := by decide
  have hfields : Document.fields (layer i).link =
      "\"domain\":" ++ Document.string (layer 0).link.domain.name ++ ",\"code\":" ++
      Document.string (layer 0).link.code.name ++ ",\"flags\":" ++
      Document.flagsArray (layer 0).link.flags ++ ",\"message\":" ++
      Document.string (layer i).link.message ++ Document.locationFields (location 37) := rfl
  rw [hfields, String.utf8ByteSize_append, String.utf8ByteSize_append]
  omega

/-- The innermost error is one that can be created. -/
theorem modest_leaf : leaf.Modest where
  accepted := by decide
  fits := by decide
  room := by decide

/-- So is the one around it. -/
theorem modest_policy : policy.Modest where
  accepted := by decide
  fits := by decide
  room := by decide

/-- And so is every layer, whatever its number. -/
theorem modest_layer {i : Nat} (hi : i < 2 ^ 64) : (layer i).Modest where
  accepted := by simp [layer, Message.Argument.ofText]
  fits := Nat.le_refl _
  room := by
    have hlength := length_message_le hi
    have hsize := Document.textSize_le (layer i).link.message.toList
    have hbound : 4 * 26 + 1 < Memory.ordinaryRoom := by decide
    rw [Message.textSize_toList, String.length_toList] at hsize
    show (layer i).link.message.utf8ByteSize + 1 < Memory.ordinaryRoom
    omega

/-- There is room for the document of any such chain, as no more links of it are written than the
depth limit allows. -/
theorem size_document_le {n : Nat} (hn : n < 2 ^ 64) :
    (Document.ofChain Document.depthLimit (chain n)).utf8ByteSize + 1 < Memory.ordinaryRoom := by
  have hbound : 64 * (1000 + 29) + 1 < Memory.ordinaryRoom := by decide
  have hfields : ∀ l ∈ (chain n).links, (Document.fields l).utf8ByteSize ≤ 1000 := by
    have hfixed : (Document.fields policy.link).utf8ByteSize ≤ 1000 ∧
        (Document.fields leaf.link).utf8ByteSize ≤ 1000 := by
      decide +kernel
    intro l hl
    rw [links_chain] at hl
    rcases List.mem_append.1 hl with hl | hl
    · obtain ⟨i, hi, rfl⟩ := List.mem_map.1 hl
      rw [List.mem_reverse, List.mem_range] at hi
      exact size_fields_layer_le (Nat.lt_trans hi hn)
    · simp only [List.mem_cons, List.not_mem_nil, or_false] at hl
      rcases hl with rfl | rfl
      · exact hfixed.1
      · exact hfixed.2
  have hdocument := Document.size_nested_le 63 (chain n).top hfields
  show (Document.nested 63 (chain n).top (chain n).causes).utf8ByteSize + 1 < Memory.ordinaryRoom
  omega

/-! ## Building it

One layer after another, each on top of the tower that is there.
-/

section Building

variable {s : Store} {c : ContextId} {links : List Link} {held : List FaultId} {top : FaultId}

/-- **Every layer takes the place of the one before**, whose handle is given up.  The induction is
on the number of layers that are left, and the tower is held by two handles at every step. -/
theorem wrap_raised {i n : Nat} (h : s.Raised c links (top :: held))
    (htop : links.length = top + 1) (hfew : held.length + 3 ≤ 2 ^ 32) (hn : i + n ≤ 2 ^ 64) :
    ∃ s', wrap s c top i n = (s', .ok (top + n)) ∧
      s'.Raised c (links ++ (List.range' i n).map fun i => (layer i).link) ((top + n) :: held) ∧
      s'.log = s.log := by
  induction n generalizing s links top i with
  | zero =>
      refine ⟨s, rfl, ?_, rfl⟩
      rw [List.range'_zero, List.map_nil, List.append_nil]
      exact h
  | succ n ih =>
      have hmodest : (layer i).Modest := modest_layer (by omega)
      obtain ⟨s₁, hcreate, hraised, hlog⟩ := h.wrap htop hfew hmodest
      have htop₁ : (links ++ [(layer i).link]).length = top + 1 + 1 := by
        rw [List.length_append, htop, List.length_singleton]
      obtain ⟨s', hwrap, hraised', hlog'⟩ := @ih _ _ _ (i + 1) hraised htop₁ (by omega)
      refine ⟨s', ?_, ?_, hlog'.trans hlog⟩
      · rw [wrap, hcreate]
        dsimp only
        rw [hwrap, Nat.add_right_comm, Nat.add_assoc]
      · rw [Nat.add_right_comm, List.append_assoc, List.singleton_append] at hraised'
        rw [List.range'_succ, List.map_cons]
        exact hraised'

end Building

/-! ## Walking along it

The lines of a walk are those of the links that it meets, which are the links of the tower from the
top down, as far as the bound goes.
-/

/-- The line of a visit, with the number of the visit and the link that is met. -/
def line (i : Nat) (l : Link) : String :=
  "  #" ++ column i ++ " " ++ l.display

/-- **A walk** that goes on until it is stopped has one line for each link that it comes to.  The
induction is on the bound, along the causes. -/
theorem walkFrom_lines {s : Store} {top : Option FaultId} {es : List FaultId} (h : s.Causes top es)
    {links : List Link} (hlinks : es.map s.link? = links.map some) (bound : Nat)
    (lines : List String) (k : Nat) :
    (s.walkFrom (fun (lines, n) _ f => ((line n f.link :: lines, n + 1), true)) bound top
        (lines, k)).1 =
      ((links.take bound).mapIdx fun i l => line (k + i) l).reverse ++ lines := by
  induction h generalizing links bound lines k with
  | nil =>
      obtain rfl := List.map_eq_nil_iff.1 hlinks.symm
      cases bound <;> rfl
  | @cons e f es hget _ ih =>
      rw [List.map_cons, Store.link?, hget, Option.map_some] at hlinks
      obtain ⟨l, links, rfl, hl, hrest⟩ := List.map_eq_cons_iff.1 hlinks.symm
      obtain rfl := Option.some.inj hl
      cases bound with
      | zero => rfl
      | succ bound =>
          rw [Store.walkFrom, hget]
          dsimp only
          rw [ih hrest.symm, List.take_succ_cons, List.mapIdx_cons, List.reverse_cons,
            List.append_assoc]
          simp only [Nat.add_assoc, Nat.add_comm 1]
          rfl

/-- The lines of a walk over the whole chain, as far as the depth limit goes. -/
theorem walkLines_eq {s : Store} {c : ContextId} {links : List Link} {held : List FaultId}
    {top : FaultId} (h : s.Tower c links held) (htop : links.length = top + 1) :
    walkLines s top = (links.reverse.take Document.depthLimit).mapIdx line := by
  have hcauses := h.causes (Nat.le_refl links.length)
  have hlines := walkFrom_lines hcauses h.map_link? Document.depthLimit [] 0
  have hbelow : Store.below links.length = some top := by rw [htop]; rfl
  rw [List.append_nil, hbelow] at hlines
  simp only [Nat.zero_add] at hlines
  rw [← List.reverse_reverse ((links.reverse.take Document.depthLimit).mapIdx line), ← hlines]
  rfl

/-! ## Showing it

The tower is read, copied and taken down, and every answer on the way is written.  What is shown
depends on the chain alone.
-/

/-- What the demonstration writes about a chain after the header. -/
def shown (chain : Chain) : String :=
  let document := Document.ofChain Document.depthLimit chain
  let lines := (chain.links.take Document.depthLimit).mapIdx line
  (chain.top.display ++ "\n\n") ++
    ("json:  " ++ document ++ "\n\n") ++
    ("flags: " ++ chain.top.flags.format ++ "\n") ++
    String.join (lines.map (· ++ "\n")) ++
    (if Document.depthLimit ≤ chain.length then "  (walk stopped at 64 links)\n" else "") ++
    ("\ncopy:  " ++ toString document.utf8ByteSize ++ " bytes, live errors: " ++
      toString chain.length ++ "\n") ++
    "context destroyed\n" ++
    "copy still readable: true\n"

section Showing

variable {s : Store} {c : ContextId} {links : List Link} {top : FaultId} {chain : Chain}

/-- The whole chain is there to be shown: its line, its document, its flags and its walk. -/
theorem report_eq {held : List FaultId} (h : s.Tower c links held) (htop : links.length = top + 1)
    (hchain : chain.links = links.reverse) (document : String) :
    report s top document =
      chain.top.display ++ "\n\n" ++ "json:  " ++ document ++ "\n\n" ++
        "flags: " ++ chain.top.flags.format ++ "\n" ++
        String.join (((chain.links.take Document.depthLimit).mapIdx line).map (· ++ "\n")) ++
        (if Document.depthLimit ≤ chain.length then
          "  (walk stopped at " ++ toString Document.depthLimit ++ " links)\n"
        else "") := by
  have hlast : links[top]? = some chain.top := by
    have hhead : chain.links.head? = links.reverse.head? := congrArg List.head? hchain
    rw [List.head?_reverse, List.getLast?_eq_getElem?, htop, Nat.add_sub_cancel] at hhead
    exact hhead.symm
  have hlink : s.link? top = some chain.top := h.link? hlast
  obtain ⟨f, hstands⟩ := h.stands top _ hlast
  have hflags : f.flags = chain.top.flags := congrArg Link.flags hstands.link
  have hstopped : ((chain.links.take Document.depthLimit).mapIdx line).length =
      Document.depthLimit ↔ Document.depthLimit ≤ chain.length := by
    rw [List.length_mapIdx, List.length_take]
    exact min_eq_left_iff
  unfold report display
  rw [walkLines_eq h htop, ← hchain, hlink, hstands.found]
  dsimp only [Option.map_some, Option.getD_some]
  rw [hflags, if_congr hstopped rfl rfl]

/-- Every document begins with its domain, which is how a copy is recognised after everything is
gone. -/
theorem startsWith_ofChain (limit : Nat) (chain : Chain) :
    (Document.ofChain limit chain).startsWith "\x7b\"domain\"" = true := by
  have hopening : "\x7b\"domain\"" = "\x7b" ++ "\"domain\"" := by decide
  obtain ⟨behind, hnested⟩ : ∃ behind, Document.ofChain limit chain =
      "\x7b" ++ (Document.fields chain.top ++ behind) :=
    ⟨_, by
      rw [Document.ofChain, Document.nested.eq_def]
      simp only [String.append_assoc]
      rfl⟩
  obtain ⟨more, hfields⟩ : ∃ more, Document.fields chain.top = "\"domain\"" ++ more :=
    ⟨":" ++ _, by
      unfold Document.fields
      simp only [String.append_assoc]
      rfl⟩
  have hsplit : Document.ofChain limit chain =
      ("\x7b" ++ "\"domain\"") ++ (more ++ behind) := by
    rw [hnested, hfields]
    simp only [String.append_assoc]
  rw [String.startsWith_string_iff, hopening, hsplit]
  exact ⟨(more ++ behind).toList, String.toList_append.symm⟩

/-- **Showing a tower that only this handle and the one on its innermost error hold** shows all of
it, and leaves nothing.  The top is given up first, and takes down what nobody else holds. -/
theorem present_raised {leaf : FaultId} (h : s.Raised c links [top, leaf])
    (htop : links.length = top + 1) (hchain : chain.links = links.reverse)
    (hroom : (Document.ofChain Document.depthLimit chain).utf8ByteSize + 1 < Memory.ordinaryRoom) :
    ∃ s', present s c leaf top = (s', .ok (shown chain)) ∧
      s'.log = s.log.emit .debug Store.contextOrigin "context destroyed" := by
  have hdocument : Document.document .granted (some chain) =
      Document.ofChain Document.depthLimit chain := by
    rw [Document.document, Document.writeLimit, if_pos (.inr rfl)]
  rw [← hdocument] at hroom
  -- Reading, copying, letting go: each leaves a tower, until nothing is left of it.
  obtain ⟨s₁, cached, hread, htext, htower₁, hlog₁, hagain⟩ := h.read htop hchain hroom
  have hshown : (Reading.document cached).text = Document.ofChain Document.depthLimit chain :=
    htext.trans hdocument
  rw [hdocument, ← hshown] at hroom
  obtain ⟨s₂, copy, hcopy, htower₂, hlog₂, hcopied, hlength⟩ := htower₁.copyDocument hagain hroom
  have hlive : ((s₂.contexts.get? c).map Context.live).getD 0 = chain.length := by
    rw [htower₂.live_eq, ← List.length_reverse, ← hchain]
    rfl
  have hfew : [top, leaf].length + 1 ≤ 2 ^ 32 := by simp
  obtain ⟨s₃, hrelease, hlog₃⟩ := htower₂.takenDown hfew Verdict.diagnosing
  change ((s₂.release top).release leaf).releaseContext c Verdict.diagnosing = _ at hrelease
  have hline : releaseLine s₃ c .destroyed = "context destroyed" := rfl
  have hwords : "context destroyed\n" = "context destroyed" ++ "\n" ∧
      "copy still readable: true\n" = "copy still readable: " ++ (toString true ++ "\n") ∧
      "  (walk stopped at 64 links)\n" =
        "  (walk stopped at " ++ (toString Document.depthLimit ++ " links)\n") := by
    decide
  -- The lines are put together in the order in which they are written.
  have hpresent : present s c leaf top = (s₃.freeCopy copy, .ok (shown chain)) := by
    unfold present
    rw [hread]
    dsimp only
    rw [hcopy]
    dsimp only
    rw [hrelease]
    dsimp only
    rw [report_eq htower₁ htop hchain, copyLine, hlive, hlength, hcopied, hshown,
      startsWith_ofChain, hline]
    simp only [shown, hwords, String.append_assoc]
  refine ⟨_, hpresent, ?_⟩
  show s₃.log = _
  rw [hlog₃, hlog₂, hlog₁]

end Showing

/-! ## From beginning to end

The environment is read, a context is created over a new backend, and the rest is what was said of
towers.
-/

/-- The chain has two links more than layers. -/
theorem length_chain (n : Nat) : (chain n).links.length = n + 2 := by
  rw [links_chain, List.length_append, List.length_map, List.length_reverse, List.length_range]
  rfl

/-- **Building the chain and showing it** over a context that begins with nothing. -/
theorem build_raised {s : Store} {c : ContextId} (h : s.Raised c [] []) {n : Nat}
    (hn : n < 2 ^ 64) :
    ∃ s', build s c n = (s', .ok (shown (chain n))) ∧
      s'.log = s.log.emit .debug Store.contextOrigin "context destroyed" := by
  obtain ⟨s₁, hleaf, hraised₁, hlog₁⟩ := h.create modest_leaf
  obtain ⟨s₂, hpolicy, hraised₂, hlog₂⟩ := hraised₁.create modest_policy
  obtain ⟨s₃, hwrap, hraised₃, hlog₃⟩ :=
    wrap_raised (i := 0) (n := n) hraised₂ rfl (by simp) (by omega)
  have hlinks : (chain n).links = ([leaf.link, policy.link] ++
      (List.range' 0 n).map fun i => (layer i).link).reverse := by
    rw [links_chain, List.reverse_append, ← List.map_reverse, ← List.range_eq_range']
    rfl
  have htop : ([leaf.link, policy.link] ++
      (List.range' 0 n).map fun i => (layer i).link).length = 1 + n + 1 := by
    rw [← List.length_reverse, ← hlinks, length_chain, Nat.add_comm 1 n]
  obtain ⟨s', hpresent, hlog⟩ := present_raised hraised₃ htop hlinks (size_document_le hn)
  refine ⟨s', ?_, ?_⟩
  · unfold build
    rw [show s.create c leaf none = (s₁, .ok 0) from hleaf]
    dsimp only
    rw [show s₁.create c policy (some 0) = (s₂, .ok 1) from hpolicy]
    dsimp only
    rw [show wrap s₂ c 1 0 n = (s₃, .ok (1 + n)) from hwrap]
    exact hpresent
  · rw [hlog, hlog₃, hlog₂, hlog₁]

/-- A variable that reads as an unsigned integer has a value that its type holds.  Anything else
reads as if it were not set. -/
theorem bounds_of_integer? {env : Environment} {bits : Nat} {key : String} {v : Int}
    (h : env.integer? { bits, signed := false } key = some v) : 0 ≤ v ∧ v < 2 ^ bits := by
  obtain ⟨word, -, hword⟩ := Option.bind_eq_some_iff.1 h
  have hholds := Text.holds_of_integer? hword
  rw [Text.IntegerType.holds, Bool.and_eq_true, decide_eq_true_eq, decide_eq_true_eq] at hholds
  obtain ⟨hleast, hgreatest⟩ := hholds
  rw [Text.IntegerType.least, if_neg (by simp)] at hleast
  rw [Text.IntegerType.greatest, if_neg (by simp), Nat.one_shiftLeft] at hgreatest
  refine ⟨hleast, ?_⟩
  push_cast at hgreatest
  omega

/-- A threshold that does not read as zero is one that can be set. -/
theorem validate_ofEnvironment {env : Environment}
    (hyield : env.integer? { bits := 32, signed := false } Settings.yieldVariable ≠ some 0) :
    (Settings.ofEnvironment env).validate = .ok () := by
  have hthreshold : (Settings.ofEnvironment env).yieldAfter ≠ 0 := by
    unfold Settings.ofEnvironment Environment.integer
    dsimp only
    cases hread : env.integer? { bits := 32, signed := false } Settings.yieldVariable with
    | none => decide
    | some v =>
        obtain ⟨hpos, hbound⟩ := bounds_of_integer? hread
        have hne : v ≠ 0 := fun hzero => hyield (hzero ▸ hread)
        intro hzero
        have hword := congrArg UInt32.toNat hzero
        rw [Option.getD_some, UInt32.toNat_ofNat'] at hword
        change v.toNat % 2 ^ 32 = 0 at hword
        omega
  rw [Settings.validate, if_neg hthreshold]

/-- A depth that the environment does not say, or says as no number, is none. -/
theorem layers_eq {env : Environment} {n : Nat}
    (hdepth : (env.integer? { bits := 64, signed := false } depthVariable).getD 0 = n) :
    layers env = n ∧ n < 2 ^ 64 := by
  refine ⟨?_, ?_⟩
  · rw [layers, Environment.integer, hdepth, Int.toNat_natCast]
  · cases hread : env.integer? { bits := 64, signed := false } depthVariable with
    | none =>
        rw [hread, Option.getD_none] at hdepth
        omega
    | some v =>
        obtain ⟨-, hbound⟩ := bounds_of_integer? hread
        rw [hread, Option.getD_some] at hdepth
        omega

/-- **Everything after the header.** It is the same for every environment but for the lines of the
log. -/
theorem body_eq {env : Environment} {n : Nat} (hn : n < 2 ^ 64) (hlayers : layers env = n)
    (hvalid : (Settings.ofEnvironment env).validate = .ok ()) :
    ∃ s, body env = (s, .ok (shown (chain n))) ∧
      s.log = ((logOf env).emit .debug Store.contextOrigin "context created").emit .debug
        Store.contextOrigin "context destroyed" := by
  have hnobody : ({} : Store).Quiet := by
    intro b backend hget
    rw [Arena.get?_empty] at hget
    cases hget
  have hunread : ({} : Store).Unread ({ log := logOf env } : Store) :=
    (Store.Unread.refl hnobody).pass rfl rfl
  have hsupplied : ((({ log := logOf env } : Store).openBackend none).1).Supplied 0 :=
    ⟨_, rfl, Backend.willing_open⟩
  obtain ⟨s₁, hcreate, hraised, hlog₁⟩ :=
    hsupplied.createContext hvalid rfl (hunread.openBackend none Memory.Rule.ordinary)
  obtain ⟨s', hbuild, hlog⟩ := build_raised hraised hn
  refine ⟨s', ?_, ?_⟩
  · unfold body
    dsimp only
    rw [show (({ log := logOf env } : Store).openBackend none).1.createContext
      (({ log := logOf env } : Store).openBackend none).2 (.ofEnvironment env) = _ from hcreate]
    dsimp only
    rw [hlayers]
    exact hbuild
  · rw [hlog, hlog₁]
    rfl

/-- **The demonstration ends cleanly for every depth**, whatever its environment says, unless the
threshold reads as zero.  Its backend has no limit, and nothing that it is asked for is too large.

* The chain has as many layers as the variable reads as, and none if it is unset or does not read as
  a number; the last layer comes first, and the policy error and its cause come last.
* Its document is written in full, up to the depth limit, and so are the lines of the walk.
* The copy is as long as the document, all errors are alive when it is taken, and none when the
  context is given up; what is left is what the log let through. -/
theorem run_of_environment (env : Environment) (n : Nat)
    (hdepth : (env.integer? { bits := 64, signed := false } depthVariable).getD 0 = n)
    (hyield : env.integer? { bits := 32, signed := false } Settings.yieldVariable ≠ some 0) :
    let document := Document.ofChain Document.depthLimit (chain n)
    let lines := ((chain n).links.take Document.depthLimit).mapIdx fun i l =>
      "  #" ++ column i ++ " " ++ l.display
    (chain n).links =
        (List.range n).reverse.map (fun i => (layer i).link) ++ [policy.link, leaf.link] ∧
      lines.length = min (n + 2) Document.depthLimit ∧
      run env = {
        exitCode := 0
        output := header ++ (
          (chain n).top.display ++ "\n\n" ++
          ("json:  " ++ document ++ "\n\n") ++
          ("flags: " ++ (chain n).top.flags.format ++ "\n") ++
          String.join (lines.map (· ++ "\n")) ++
          (if Document.depthLimit ≤ n + 2 then "  (walk stopped at 64 links)\n" else "") ++
          ("\ncopy:  " ++ toString document.utf8ByteSize ++ " bytes, live errors: " ++
            toString (n + 2) ++ "\n") ++
          "context destroyed\n" ++
          "copy still readable: true\n")
        errors := (((logOf env).emit .debug Store.contextOrigin "context created").emit .debug
          Store.contextOrigin "context destroyed").output } := by
  intro document lines
  obtain ⟨hlayers, hn⟩ := layers_eq hdepth
  obtain ⟨s, hbody, hlog⟩ := body_eq hn hlayers (validate_ofEnvironment hyield)
  have hlength : (chain n).length = n + 2 := length_chain n
  refine ⟨links_chain n, ?_, ?_⟩
  · rw [List.length_mapIdx, List.length_take, length_chain, Nat.min_comm]
  · rw [run, hbody, ← hlength]
    dsimp only
    rw [hlog]
    rfl

/-- An environment that asks for one layer, and for the lines about contexts. -/
def oneLayer : Environment :=
  ⟨[(depthVariable, " 1 ".toUTF8), (levelVariable, "debug".toUTF8)]⟩

/-- One layer around two errors, with the lines about contexts: what is written in full. -/
theorem run_of_oneLayer :
    let document := Document.ofChain Document.depthLimit (chain 1)
    (oneLayer.integer? { bits := 64, signed := false } depthVariable).getD 0 = (1 : Nat) ∧
      oneLayer.integer? { bits := 32, signed := false } Settings.yieldVariable ≠ some 0 ∧
      run oneLayer = {
        exitCode := 0
        output := header ++ (
          "[GENERIC/UNKNOWN] layer 0\n\n" ++
          ("json:  " ++ document ++ "\n\n") ++
          "flags: \n" ++
          ("  #0  [GENERIC/UNKNOWN] layer 0\n" ++
            "  #1  [POLICY/POLICY_VIOLATION] Policy blocked update for refs/main\n" ++
            "  #2  [GIT/NOT_FOUND] Object abc123 not found\n") ++
          "\ncopy:  496 bytes, live errors: 3\n" ++
          "context destroyed\n" ++
          "copy still readable: true\n")
        errors := "[DEBUG] gitledger::context: context created\n" ++
          "[DEBUG] gitledger::context: context destroyed\n" } := by
  have hdepth : (oneLayer.integer? { bits := 64, signed := false } depthVariable).getD 0 =
      (1 : Nat) := by
    decide +kernel
  have hyield : oneLayer.integer? { bits := 32, signed := false } Settings.yieldVariable ≠
      some 0 := by
    decide +kernel
  obtain ⟨-, -, hrun⟩ := run_of_environment oneLayer 1 hdepth hyield
  refine ⟨hdepth, hyield, hrun.trans ?_⟩
  decide +kernel

end Demo

end FaultChain
