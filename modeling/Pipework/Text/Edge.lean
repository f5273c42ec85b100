namespace Pipework.Text

def isGap (c : Char) : Bool := c == ' ' || c == '\t'

def trimGaps (cs : List Char) : List Char :=
  ((cs.dropWhile isGap).reverse.dropWhile isGap).reverse

def hasEdgeGap (cs : List Char) : Bool := cs.head?.any isGap || cs.getLast?.any isGap

end Pipework.Text
