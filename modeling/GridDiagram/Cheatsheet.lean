/-!
The quick reference of the markup, as the program prints it.
-/

namespace GridDiagram

/-- The lines of the quick reference; the last one is empty. -/
def cheatsheetLines : List String := [
  "# diagrid quick reference",
  "",
  "A diagram is an XML document rooted at `<diagram>`. Every element is placed",
  "on its parent's grid and sized from its content.",
  "",
  "## Grid",
  "",
  "- Lines are numbered from 1; interval `i` lies between lines `i` and `i+1`.",
  "- `grid=\"c r\"` puts a child in one cell; `grid=\"x1 y1 x2 y2\"` spans lines.",
  "  `gridx=\"1 3\"` / `gridy=\"2\"` set one axis.",
  "- Children without a placement sit in cell `(1, 1)`.",
  "- `minx` / `miny` on `<layout>` (and `<diagram>`): pairs of `line size`.",
  "  `minx=\"1 70 2 0\"` gives interval 1 at least 70. `minx=\"2 +1\"` makes",
  "  interval 2 expandable with weight 1.",
  "- `expand=\"1\"` (or `expand=\"1 0\"` per axis, 0..1) grows a layout into its",
  "  box; extra space goes to weighted intervals.",
  "- `anchor=\"-1 1\"` aligns a node in its box: -1 start, 0 centre, 1 end.",
  "- `place=\"x y\"` skips the grid and centres a child on a point measured from",
  "  the parent's line 1 (x and y). The parent grows to include it.",
  "- `translate=\"dx dy\"` moves a node (and everything in it) after layout.",
  "",
  "## Elements",
  "",
  "| Element   | Notes                                                   |",
  "|-----------|---------------------------------------------------------|",
  "| `layout`  | grid container with `minx`, `miny`, `expand`            |",
  "| `group`   | grid container, no constraints                          |",
  "| `rect`    | `width`, `height`, `round`                              |",
  "| `circle`  | ellipse filling `width` x `height`                      |",
  "| `polygon` | `vertices` (default 4), `stellate` (star), `round`      |",
  "| `text`    | element text, one line per source line; `font-*`        |",
  "| `path`    | `coords=\"x y x y ...\"`, `closed=\"true\"`                 |",
  "| `use`     | `ref=\"name\"` instantiates a template from `<defs>`      |",
  "| `style`   | named property set (`id` required)                      |",
  "| `rule`    | `select=\"class=name\"`, `select=\"id=name\"` or `id=`/`class=`; may nest |",
  "",
  "Box properties on every element: `pad`, `margin` (1, 2 or 4 values),",
  "`bg`, `border-color`, `border-width`, `border-round`, `anchor`.",
  "Shapes: `fill`, `stroke`, `stroke-width`, `rotate`, `scale`.",
  "",
  "## Cascade",
  "",
  "Kind defaults, then values inherited from the parent (`fill`, `stroke`,",
  "`stroke-width`, `font-*`), then class rules, then id rules, then the",
  "element's own attributes. Id rules beat class rules whatever order they",
  "appear in. A `rule` nested in a `rule` only styles nodes inside something",
  "the outer rule matched:",
  "",
  "```xml",
  "<rule select=\"class=card\">",
  "  <rule select=\"class=title\" font-size=\"14\"/>",
  "</rule>",
  "```",
  "",
  "## Example",
  "",
  "```xml",
  "<diagram minx=\"1 70 2 0\" pad=\"8\">",
  "  <defs>",
  "    <layout id=\"card\" pad=\"4\" bg=\"#eef\">",
  "      <text>Card</text>",
  "    </layout>",
  "  </defs>",
  "  <style id=\"accent\" fill=\"#c33\"/>",
  "  <rule select=\"class=hot\" style=\"accent\"/>",
  "  <rect grid=\"1 1\" width=\"60\" height=\"20\" class=\"hot\"/>",
  "  <use ref=\"card\" id=\"second\" grid=\"2 1\"/>",
  "</diagram>",
  "```",
  ""]

/-- The quick reference. -/
def cheatsheet : String :=
  "\n".intercalate cheatsheetLines

end GridDiagram
