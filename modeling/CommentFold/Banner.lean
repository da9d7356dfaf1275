import CommentFold.Failure

/-! A file is folded only if its first three lines carry the banner. Each of
them has to start with its required text and may go on as it likes; later lines
are free. -/

namespace CommentFold.Banner

def required : List Text :=
  ["// gostdjs version 0.1".toList,
    "// Copyright 2017 The Go Authors. All rights reserved. Use of this source code".toList,
    "// is governed by a BSD-style license that can be found in the LICENSE file.".toList]

/-- Whether a line may stand at an index. -/
def accepts (index : Nat) (raw : Text) : Bool :=
  match required[index]? with
  | some start => start.isPrefixOf raw
  | none => true

def check (path : Path) (index : Nat) (raw : Text) : Except Failure Unit :=
  if accepts index raw then .ok () else .error (.bannerMismatch path index)

theorem accepts_of_length_le {index : Nat} (later : required.length ≤ index) (raw : Text) :
    accepts index raw = true := by
  simp [accepts, List.getElem?_eq_none later]

theorem check_eq_ok_iff {path : Path} {index : Nat} {raw : Text} :
    check path index raw = .ok () ↔ accepts index raw = true := by
  unfold check
  split <;> simp_all

end CommentFold.Banner
