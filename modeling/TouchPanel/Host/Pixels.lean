import TouchPanel.Event
import TouchPanel.Gesture.Classifier

/-!
This module contains the pixels in which the host toolkit counts, and the mouse events by which a
contact drives the mouse.
-/

namespace TouchPanel

namespace Reference

/--
The pixel that a coordinate falls on, among so many. What is out of range counts as the nearest
word, and what is not a number as zero.
-/
def truncate (coordinate : Float32) (count : UInt32) : Int32 :=
  (coordinate * count.toFloat32).toInt32

def coordinate (pixel : Int32) (count : UInt32) : Float32 :=
  Binary.clampUnit (Binary.ofInt pixel.toInt / (max count 1).toFloat32)

end Reference

namespace Sample

def mouseEvent (reference : Reference) (sample : Sample) : MouseEvent :=
  let action :=
    match sample.phase with
    | .down => .press .left
    | .move => .motion
    | .up => .release .left
  { action
    x := Reference.truncate sample.x reference.width
    y := Reference.truncate sample.y reference.height
    time := sample.time }

end Sample

end TouchPanel
