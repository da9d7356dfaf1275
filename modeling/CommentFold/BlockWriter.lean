import CommentFold.Block
import CommentFold.Event

/-! Folding comment lines into blocks, one line at a time. Between two lines a
writer remembers the block that it is in, if any, and nothing else about the
lines before. What it has written is never taken back. -/

namespace CommentFold

/-- A block that has no closing marker yet: its indent and its first line. -/
structure OpenBlock where
  indent : Text
  start : Nat
  deriving DecidableEq, Repr

structure BlockWriter where
  /-- What was written, the latest piece first. -/
  pieces : List Text
  current? : Option OpenBlock
  blocks : Nat
  /-- What was told, the latest event first. -/
  told : List Event
  deriving DecidableEq, Repr

namespace BlockWriter

/-- A writer that goes on after a given text. -/
def after (text : Text) : BlockWriter := ⟨[text], none, 0, []⟩

def out (writer : BlockWriter) : Text := writer.pieces.reverse.flatten

def events (writer : BlockWriter) : List Event := writer.told.reverse

def write (writer : BlockWriter) (text : Text) : BlockWriter :=
  { writer with pieces := text :: writer.pieces }

def tell (writer : BlockWriter) (event : Event) : BlockWriter :=
  { writer with told := event :: writer.told }

def openBlock (writer : BlockWriter) (line : Line) : BlockWriter :=
  { (writer.write (Block.openingMarker line.indent)).tell (.opening line.index) with
    current? := some ⟨line.indent, line.index⟩
    blocks := writer.blocks + 1 }

def closeBlock (writer : BlockWriter) (block : OpenBlock) : BlockWriter :=
  { (writer.write (Block.closingMarker block.indent)).tell (.closing block.start) with
    current? := none }

def push (writer : BlockWriter) (line : Line) : BlockWriter :=
  match line.body?, writer.current? with
  | some body, some block => writer.write (Block.commentLine block.indent body)
  | some body, none => (writer.openBlock line).write (Block.commentLine line.indent body)
  | none, some block => (writer.closeBlock block).write (Block.plainLine line.raw)
  | none, none => writer.write (Block.plainLine line.raw)

def finish (writer : BlockWriter) (trailing : Trailing) : BlockWriter :=
  match writer.current?, trailing with
  | some block, .close => writer.closeBlock block
  | some block, .leave => writer.tell (.leftOpen block.start)
  | none, _ => writer

@[simp] theorem out_after (text : Text) : (after text).out = text := by
  simp [after, out]

@[simp] theorem out_write (writer : BlockWriter) (text : Text) :
    (writer.write text).out = writer.out ++ text := by
  simp [write, out]

@[simp] theorem out_tell (writer : BlockWriter) (event : Event) :
    (writer.tell event).out = writer.out := rfl

@[simp] theorem out_openBlock (writer : BlockWriter) (line : Line) :
    (writer.openBlock line).out = writer.out ++ Block.openingMarker line.indent := by
  simp [out, openBlock, tell, write]

@[simp] theorem out_closeBlock (writer : BlockWriter) (block : OpenBlock) :
    (writer.closeBlock block).out = writer.out ++ Block.closingMarker block.indent := by
  simp [out, closeBlock, tell, write]

@[simp] theorem current?_write (writer : BlockWriter) (text : Text) :
    (writer.write text).current? = writer.current? := rfl

@[simp] theorem blocks_write (writer : BlockWriter) (text : Text) :
    (writer.write text).blocks = writer.blocks := rfl

@[simp] theorem events_write (writer : BlockWriter) (text : Text) :
    (writer.write text).events = writer.events := rfl

@[simp] theorem events_tell (writer : BlockWriter) (event : Event) :
    (writer.tell event).events = writer.events ++ [event] := by
  simp [tell, events]

@[simp] theorem events_after (text : Text) : (after text).events = [] := rfl

@[simp] theorem events_openBlock (writer : BlockWriter) (line : Line) :
    (writer.openBlock line).events = writer.events ++ [.opening line.index] := by
  simp [events, openBlock, tell, write]

@[simp] theorem events_closeBlock (writer : BlockWriter) (block : OpenBlock) :
    (writer.closeBlock block).events = writer.events ++ [.closing block.start] := by
  simp [events, closeBlock, tell, write]

/-- What a push adds does not depend on what was written before. -/
theorem out_push (writer : BlockWriter) (line : Line) :
    (writer.push line).out = writer.out ++
      match line.body?, writer.current? with
      | some body, some block => Block.commentLine block.indent body
      | some body, none => Block.openingMarker line.indent ++ Block.commentLine line.indent body
      | none, some block => Block.closingMarker block.indent ++ Block.plainLine line.raw
      | none, none => Block.plainLine line.raw := by
  unfold push
  cases line.body? <;> cases writer.current? <;> simp

theorem events_push (writer : BlockWriter) (line : Line) :
    (writer.push line).events = writer.events ++
      match line.body?, writer.current? with
      | some _, none => [.opening line.index]
      | none, some block => [.closing block.start]
      | _, _ => [] := by
  unfold push
  cases line.body? <;> cases writer.current? <;> simp

end BlockWriter

end CommentFold
