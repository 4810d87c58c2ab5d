namespace WatchfaceCheck.Declarations

def fileName : String := "rocky.d.ts"

def textLines : List String :=
  ["declare namespace rocky \x7b",
   "  interface EventBase \x7b",
   "    type?: String // FIXME",
   "    origin?: String // FIXME pebble://SERIAL/APP_UUID",
   "  \x7d",
   "",
   "  interface DrawEvent extends EventBase \x7b",
   "    context: RenderingContext",
   "  \x7d",
   "",
   "  interface TickEvent extends EventBase \x7b",
   "    date?: Date // FIXME",
   "  \x7d",
   "",
   "  type MemoryPressureLevel = \"low\" | \"medium\" | \"high\"",
   "",
   "  interface MemoryPressureEvent extends EventBase \x7b",
   "    level: MemoryPressureLevel",
   "  \x7d",
   "",
   "  interface MessageEvent \x7b\x7d // FIXME: raw object, should be proper event with .data",
   "",
   "  interface Event extends EventBase, DrawEvent, TickEvent, MemoryPressureEvent, MessageEvent \x7b \x7d",
   "",
   "  interface RenderingContext extends CanvasRenderingContext2D \x7b",
   "    canvas: Canvas",
   "    measureText(text: string): ExtendedTextMetrics",
   "    curveTo(x: IsNotImplementedInRockyYet, y: number): void",
   "    // curveTo: IsNotImplementedInRockyYet",
   "  \x7d",
   "",
   "  interface ExtendedTextMetrics extends TextMetrics \x7b",
   "    height: number",
   "    actualBoundingBoxLeft?: void // FIXME: remove from docs",
   "    actualBoundingBoxRight?: void // FIXME: remove from docs",
   "  \x7d",
   "",
   "  interface IsNotImplementedInRockyYet \x7b",
   "    _doesNotWork: any",
   "  \x7d",
   "",
   "  /**",
   "   * Blubb",
   "   */",
   "  interface Canvas extends HTMLCanvasElement \x7b",
   "    unobstructedWidth: number",
   "    unobstructedHeight: number",
   "    unobstructedTop: number",
   "    unobstructedLeft: number",
   "  \x7d",
   "",
   "  interface WatchInfo \x7b",
   "    color: \x7b id: number, name: string \x7d",
   "    model: \x7b id: number, name: string \x7d",
   "    version: \x7b major: number, minor: number, patch: number \x7d // FIXME: is patch a string?",
   "  \x7d",
   "",
   "  interface EventHandler \x7b (event: Event): void \x7d",
   "",
   "  type EventName = \"draw\" | \"message\" | \"secondchange\" | \"minutechange\" | \"hourchange\" | \"daychange\" | \"memorypressure\"",
   "",
   "  interface Rocky \x7b",
   "    // on(eventName: EventName, eventHandler: EventHandler): void",
   "    on(eventName: \"minutechange\", eventListener: (event: TickEvent) => void): void",
   "    on(eventName: \"draw\", eventListener: (event: DrawEvent) => void): void",
   "    on(eventName: string, eventListener: (event: Event) => void): void",
   "    postMessage(message: any): void",
   "    requestDraw(): void",
   "    watchInfo?: WatchInfo // Not supported yet",
   "  \x7d",
   "\x7d",
   "",
   "declare module 'rocky' \x7b",
   "    var rocky: rocky.Rocky",
   "    export = rocky",
   "\x7d",
   "",
   "declare var _rocky: rocky.Rocky",
   "",
   "interface Require \x7b",
   "  (moduleName: 'rocky'): rocky.Rocky",
   "  (moduleName: string): any",
   "\x7d",
   "",
   "declare var require: Require",
   ""]

def text : String := "\n".intercalate textLines

end WatchfaceCheck.Declarations
