import Mathlib

namespace Wasm
set_option autoImplicit true

/-- The instructions that do not change the flow of control. -/
inductive Plain where
  | i32Const (value : UInt32)
  | i32Add
  | i32And
  | i32Eq
  | i32Ne
  | i32LtS
  | i32Load8U
  | localGet (index : Nat)
  | localSet (index : Nat)
  | localTee (index : Nat)
  | drop
  | memoryGrow
  | call (function : Nat)
  deriving DecidableEq

/-- Blocks take no parameters; `results` is how many values a block leaves. -/
inductive Instr where
  | plain (op : Plain)
  | block (results : Nat) (body : List Instr)
  | loop (body : List Instr)
  | ite (results : Nat) (yes no : List Instr)
  | br (label : Nat)
  | brIf (label : Nat)
  | return

/-- What a function finds around it. A call is given its arguments in order and answers with
one value; `none` is a trap. -/
structure Environment (σ : Type) where
  params : Nat → Nat
  call : Nat → List UInt32 → σ → Option (UInt32 × σ)
  load : UInt32 → σ → Option UInt8
  grow : UInt32 → σ → UInt32 × σ

structure Frame (σ : Type) where
  locals : List UInt32
  host : σ

/-- How a sequence of instructions ends, with the values it leaves, the last one first. -/
inductive Outcome where
  | next (stack : List UInt32)
  | branch (label : Nat) (stack : List UInt32)
  | return (stack : List UInt32)
  | trap
  deriving DecidableEq

def ofBool (b : Bool) : UInt32 := if b then 1 else 0

variable {σ : Type}

/-- The two uppermost values replaced by one; a stack that is too short, which validation
excludes, is a trap. -/
def binary (f : UInt32 → UInt32 → UInt32) : List UInt32 → Option (List UInt32)
  | b :: a :: stack => some (f a b :: stack)
  | _ => none

def Frame.setLocal (s : Frame σ) (index : Nat) (value : UInt32) : Option (Frame σ) :=
  if index < s.locals.length then some { s with locals := s.locals.set index value } else none

def Plain.perform (env : Environment σ) (stack : List UInt32) (s : Frame σ) :
    Plain → Option (List UInt32 × Frame σ)
  | .i32Const value => some (value :: stack, s)
  | .i32Add => (binary (· + ·) stack).map (·, s)
  | .i32And => (binary (· &&& ·) stack).map (·, s)
  | .i32Eq => (binary (fun a b => ofBool (a == b)) stack).map (·, s)
  | .i32Ne => (binary (fun a b => ofBool (a != b)) stack).map (·, s)
  | .i32LtS => (binary (fun a b => ofBool (a.toInt32 < b.toInt32)) stack).map (·, s)
  | .i32Load8U =>
    match stack with
    | address :: stack => (env.load address s.host).map (·.toUInt32 :: stack, s)
    | [] => none
  | .localGet index => s.locals[index]?.map (· :: stack, s)
  | .localSet index =>
    match stack with
    | value :: stack => (s.setLocal index value).map (stack, ·)
    | [] => none
  | .localTee index =>
    match stack with
    | value :: _ => (s.setLocal index value).map (stack, ·)
    | [] => none
  | .drop =>
    match stack with
    | _ :: stack => some (stack, s)
    | [] => none
  | .memoryGrow =>
    match stack with
    | delta :: stack =>
      let (result, host) := env.grow delta s.host
      some (result :: stack, { s with host })
    | [] => none
  | .call function =>
    let params := env.params function
    if params ≤ stack.length then
      (env.call function (stack.take params).reverse s.host).map fun (result, host) =>
        (result :: stack.drop params, { s with host })
    else none

/-- How a block ends for the code around it, when its body ended so over an empty stack. -/
def Outcome.leave (results : Nat) (outer : List UInt32) : Outcome → Outcome
  | .next stack => .next (stack ++ outer)
  | .branch 0 stack => .next (stack.take results ++ outer)
  | .branch (label + 1) stack => .branch label stack
  | .return stack => .return stack
  | .trap => .trap

/-- Runs code for as long as the fuel lasts. -/
def exec (env : Environment σ) :
    Nat → List Instr → List UInt32 → Frame σ → Option (Outcome × Frame σ)
  | 0, _, _, _ => none
  | _ + 1, [], stack, s => some (.next stack, s)
  | fuel + 1, .plain op :: rest, stack, s =>
    match op.perform env stack s with
    | some (stack, s) => exec env fuel rest stack s
    | none => some (.trap, s)
  | fuel + 1, .block results body :: rest, stack, s =>
    match exec env fuel body [] s with
    | none => none
    | some (o, s) =>
      match o.leave results stack with
      | .next stack => exec env fuel rest stack s
      | o => some (o, s)
  | fuel + 1, .loop body :: rest, stack, s =>
    match exec env fuel body [] s with
    | none => none
    | some (.branch 0 _, s) => exec env fuel (.loop body :: rest) stack s
    | some (o, s) =>
      match o.leave 0 stack with
      | .next stack => exec env fuel rest stack s
      | o => some (o, s)
  | fuel + 1, .ite results yes no :: rest, stack, s =>
    match stack with
    | [] => some (.trap, s)
    | condition :: stack =>
      exec env fuel (.block results (if condition = 0 then no else yes) :: rest) stack s
  | _ + 1, .br label :: _, stack, s => some (.branch label stack, s)
  | fuel + 1, .brIf label :: rest, stack, s =>
    match stack with
    | [] => some (.trap, s)
    | condition :: stack =>
      if condition = 0 then exec env fuel rest stack s else some (.branch label stack, s)
  | _ + 1, .return :: _, stack, s => some (.return stack, s)

section
variable {env : Environment σ}

theorem exec_succ {fuel : Nat} {code : List Instr} {stack : List UInt32} {s : Frame σ}
    (h : exec env fuel code stack s = some r) : exec env (fuel + 1) code stack s = some r := by
  induction fuel generalizing code stack s r with
  | zero => cases h
  | succ fuel ih =>
    cases code with
    | nil => exact h
    | cons i rest =>
      cases i with
      | plain op =>
        rw [exec] at h ⊢
        cases hp : op.perform env stack s with
        | none =>
          rw [hp] at h
          exact h
        | some next =>
          rw [hp] at h
          exact ih h
      | block results body =>
        rw [exec] at h ⊢
        cases hb : exec env fuel body [] s with
        | none =>
          rw [hb] at h
          cases h
        | some ended =>
          rw [hb] at h
          rw [ih hb]
          dsimp only at h ⊢
          cases hl : ended.1.leave results stack with
          | next stack =>
            rw [hl] at h
            exact ih h
          | branch | «return» | trap =>
            rw [hl] at h
            exact h
      | loop body =>
        rw [exec] at h ⊢
        cases hb : exec env fuel body [] s with
        | none =>
          rw [hb] at h
          cases h
        | some ended =>
          rw [hb] at h
          rw [ih hb]
          obtain ⟨o, s'⟩ := ended
          cases o with
          | next => exact ih h
          | branch label => cases label with
            | zero => exact ih h
            | succ => exact h
          | «return» | trap => exact h
      | ite results yes no =>
        cases stack with
        | nil => exact h
        | cons condition stack => exact ih h
      | br label => exact h
      | brIf label =>
        cases stack with
        | nil => exact h
        | cons condition stack =>
          rw [exec] at h ⊢
          by_cases hc : condition = 0
          · rw [if_pos hc] at h ⊢
            exact ih h
          · rw [if_neg hc] at h ⊢
            exact h
      | «return» => exact h

theorem exec_mono {fuel fuel' : Nat} (hle : fuel ≤ fuel')
    (h : exec env fuel code stack s = some r) : exec env fuel' code stack s = some r := by
  induction hle with
  | refl => exact h
  | step _ ih => exact exec_succ ih

/-- The code comes to an end, and so. -/
def Runs (env : Environment σ) (code : List Instr) (stack : List UInt32) (s : Frame σ)
    (o : Outcome) (s' : Frame σ) : Prop :=
  ∃ fuel, exec env fuel code stack s = some (o, s')

theorem exec_consts (values : List UInt32) (rest : List Instr) (stack : List UInt32)
    (s : Frame σ) (fuel : Nat) :
    exec env (fuel + values.length) (values.map (fun v => .plain (.i32Const v)) ++ rest) stack s =
      exec env fuel rest (values.reverse ++ stack) s := by
  induction values generalizing stack with
  | nil => rfl
  | cons value values ih =>
    rw [List.reverse_cons, List.append_assoc]
    exact ih (value :: stack)

theorem Runs.call_consts {values : List UInt32} {function : Nat} {host' : σ}
    (hlen : values.length = env.params function)
    (hcall : env.call function values s.host = some (result, host')) :
    Runs env (values.map (fun v => .plain (.i32Const v)) ++ [.plain (.call function)]) [] s
      (.next [result]) { s with host := host' } := by
  refine ⟨2 + values.length, ?_⟩
  have hperform : (Plain.call function).perform env values.reverse s =
      some ([result], { s with host := host' }) := by
    have htake : values.reverse.take (env.params function) = values.reverse := by
      rw [← hlen, ← List.length_reverse, List.take_length]
    have hdrop : values.reverse.drop (env.params function) = [] := by
      rw [← hlen, ← List.length_reverse, List.drop_length]
    have hle : env.params function ≤ values.reverse.length := by
      rw [List.length_reverse, hlen]
    simp only [Plain.perform, if_pos hle, htake, hdrop, List.reverse_reverse, hcall]
    rfl
  rw [exec_consts, List.append_nil, exec, hperform]
  rfl

theorem Runs.loop_again (hbody : Runs env body [] s (.branch 0 kept) s₁)
    (h : Runs env (.loop body :: rest) stack s₁ o s') :
    Runs env (.loop body :: rest) stack s o s' := by
  obtain ⟨fuel, hbody⟩ := hbody
  obtain ⟨fuel', h⟩ := h
  refine ⟨max fuel fuel' + 1, ?_⟩
  rw [exec, exec_mono (Nat.le_max_left fuel fuel') hbody]
  exact exec_mono (Nat.le_max_right fuel fuel') h

theorem Runs.loop_next (hbody : Runs env body [] s (.next kept) s₁)
    (h : Runs env rest (kept ++ stack) s₁ o s') :
    Runs env (.loop body :: rest) stack s o s' := by
  obtain ⟨fuel, hbody⟩ := hbody
  obtain ⟨fuel', h⟩ := h
  refine ⟨max fuel fuel' + 1, ?_⟩
  rw [exec, exec_mono (Nat.le_max_left fuel fuel') hbody]
  exact exec_mono (Nat.le_max_right fuel fuel') h

theorem Runs.loop_return (hbody : Runs env body [] s (.return kept) s₁) :
    Runs env (.loop body :: rest) stack s (.return kept) s₁ := by
  obtain ⟨fuel, hbody⟩ := hbody
  refine ⟨fuel + 1, ?_⟩
  rw [exec, hbody]
  rfl

/-- A loop that goes through the given states before it ends. -/
theorem Runs.loop_rounds (states : Nat → Frame σ) (kept : Nat → List UInt32) (n : Nat)
    (hbody : ∀ k < n, Runs env body [] (states k) (.branch 0 (kept k)) (states (k + 1)))
    (h : Runs env (.loop body :: rest) stack (states n) o s') :
    Runs env (.loop body :: rest) stack (states 0) o s' := by
  induction n with
  | zero => exact h
  | succ n ih =>
    apply ih
    · intro k hk
      exact hbody k (Nat.lt_succ_of_lt hk)
    · exact Runs.loop_again (hbody n (Nat.lt_succ_self n)) h

/-- A loop all of whose rounds branch back never ends. -/
theorem exec_loop_none {I : Frame σ → Prop}
    (hbody : ∀ fuel s r, I s → exec env fuel body [] s = some r →
      ∃ kept s', r = (.branch 0 kept, s') ∧ I s')
    (h : I s) (fuel : Nat) : exec env fuel (.loop body :: rest) stack s = none := by
  induction fuel generalizing s with
  | zero => rfl
  | succ fuel ih =>
    rw [exec]
    cases hb : exec env fuel body [] s with
    | none => rfl
    | some r =>
      obtain ⟨kept, s', he, hs⟩ := hbody fuel s r h hb
      rw [he]
      exact ih hs

theorem Plain.perform_host {op : Plain} {s s' : Frame σ}
    (h : op.perform env stack s = some (stack', s')) :
    s'.host = s.host ∨
      (∃ function args result, env.call function args s.host = some (result, s'.host)) ∨
      ∃ delta, (env.grow delta s.host).2 = s'.host := by
  cases op with
  | i32Const value =>
    cases h
    exact .inl rfl
  | i32Add | i32And | i32Eq | i32Ne | i32LtS | localGet =>
    obtain ⟨_, -, he⟩ := Option.map_eq_some_iff.1 h
    cases he
    exact .inl rfl
  | i32Load8U =>
    match stack, h with
    | address :: stack, h =>
      obtain ⟨_, -, he⟩ := Option.map_eq_some_iff.1 h
      cases he
      exact .inl rfl
  | localSet index | localTee index =>
    match stack, h with
    | value :: stack, h =>
      obtain ⟨_, hset, he⟩ := Option.map_eq_some_iff.1 h
      cases he
      rw [Frame.setLocal] at hset
      split at hset
      · cases hset
        exact .inl rfl
      · cases hset
  | drop =>
    match stack, h with
    | value :: stack, h =>
      cases h
      exact .inl rfl
  | memoryGrow =>
    match stack, h with
    | delta :: stack, h =>
      cases h
      exact .inr (.inr ⟨delta, rfl⟩)
  | call function =>
    simp only [perform] at h
    split at h
    · obtain ⟨⟨result, host⟩, hc, he⟩ := Option.map_eq_some_iff.1 h
      cases he
      exact .inr (.inl ⟨_, _, result, hc⟩)
    · cases h

/-- What calls and growths keep is kept by all code. -/
theorem exec_keeps {I : σ → Prop}
    (hcall : ∀ function args host result host',
      env.call function args host = some (result, host') → I host → I host')
    (hgrow : ∀ delta host, I host → I (env.grow delta host).2) {fuel : Nat}
    {code : List Instr} {stack : List UInt32} {s s' : Frame σ}
    (h : exec env fuel code stack s = some (o, s')) (hs : I s.host) : I s'.host := by
  induction fuel generalizing code stack s s' o with
  | zero => cases h
  | succ fuel ih =>
    cases code with
    | nil =>
      cases h
      exact hs
    | cons i rest =>
      cases i with
      | plain op =>
        rw [exec] at h
        cases hp : op.perform env stack s with
        | none =>
          rw [hp] at h
          cases h
          exact hs
        | some next =>
          rw [hp] at h
          apply ih h
          rcases Plain.perform_host hp with he | ⟨function, args, result, he⟩ | ⟨delta, he⟩
          · exact he ▸ hs
          · exact hcall _ _ _ _ _ he hs
          · exact he ▸ hgrow delta _ hs
      | block results body =>
        rw [exec] at h
        cases hb : exec env fuel body [] s with
        | none =>
          rw [hb] at h
          cases h
        | some ended =>
          have hs' := ih hb hs
          rw [hb] at h
          dsimp only at h
          cases hl : ended.1.leave results stack with
          | next stack =>
            rw [hl] at h
            exact ih h hs'
          | branch | «return» | trap =>
            rw [hl] at h
            cases h
            exact hs'
      | loop body =>
        rw [exec] at h
        cases hb : exec env fuel body [] s with
        | none =>
          rw [hb] at h
          cases h
        | some ended =>
          have hs' := ih hb hs
          rw [hb] at h
          obtain ⟨o, s₁⟩ := ended
          cases o with
          | next => exact ih h hs'
          | branch label => cases label with
            | zero => exact ih h hs'
            | succ =>
              cases h
              exact hs'
          | «return» | trap =>
            cases h
            exact hs'
      | ite results yes no =>
        cases stack with
        | nil =>
          cases h
          exact hs
        | cons condition stack => exact ih h hs
      | br label =>
        cases h
        exact hs
      | brIf label =>
        cases stack with
        | nil =>
          cases h
          exact hs
        | cons condition stack =>
          rw [exec] at h
          by_cases hc : condition = 0
          · rw [if_pos hc] at h
            exact ih h hs
          · rw [if_neg hc] at h
            cases h
            exact hs
      | «return» =>
        cases h
        exact hs

end

end Wasm
