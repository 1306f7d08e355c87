/-!
# Characters by name

The names of the characters in the blocks that rule authors use, one per line behind the code; the
ideographs and the Hangul syllables are named by rule. Case does not count in a name
of the table.
-/

namespace Conformity.Text

/-- One line per named character: its code in hexadecimal, a space, its name. -/
def charNameLines : String :=
  "20 SPACE
21 EXCLAMATION MARK
22 QUOTATION MARK
23 NUMBER SIGN
24 DOLLAR SIGN
25 PERCENT SIGN
26 AMPERSAND
27 APOSTROPHE
28 LEFT PARENTHESIS
29 RIGHT PARENTHESIS
2A ASTERISK
2B PLUS SIGN
2C COMMA
2D HYPHEN-MINUS
2E FULL STOP
2F SOLIDUS
30 DIGIT ZERO
31 DIGIT ONE
32 DIGIT TWO
33 DIGIT THREE
34 DIGIT FOUR
35 DIGIT FIVE
36 DIGIT SIX
37 DIGIT SEVEN
38 DIGIT EIGHT
39 DIGIT NINE
3A COLON
3B SEMICOLON
3C LESS-THAN SIGN
3D EQUALS SIGN
3E GREATER-THAN SIGN
3F QUESTION MARK
40 COMMERCIAL AT
41 LATIN CAPITAL LETTER A
42 LATIN CAPITAL LETTER B
43 LATIN CAPITAL LETTER C
44 LATIN CAPITAL LETTER D
45 LATIN CAPITAL LETTER E
46 LATIN CAPITAL LETTER F
47 LATIN CAPITAL LETTER G
48 LATIN CAPITAL LETTER H
49 LATIN CAPITAL LETTER I
4A LATIN CAPITAL LETTER J
4B LATIN CAPITAL LETTER K
4C LATIN CAPITAL LETTER L
4D LATIN CAPITAL LETTER M
4E LATIN CAPITAL LETTER N
4F LATIN CAPITAL LETTER O
50 LATIN CAPITAL LETTER P
51 LATIN CAPITAL LETTER Q
52 LATIN CAPITAL LETTER R
53 LATIN CAPITAL LETTER S
54 LATIN CAPITAL LETTER T
55 LATIN CAPITAL LETTER U
56 LATIN CAPITAL LETTER V
57 LATIN CAPITAL LETTER W
58 LATIN CAPITAL LETTER X
59 LATIN CAPITAL LETTER Y
5A LATIN CAPITAL LETTER Z
5B LEFT SQUARE BRACKET
5C REVERSE SOLIDUS
5D RIGHT SQUARE BRACKET
5E CIRCUMFLEX ACCENT
5F LOW LINE
60 GRAVE ACCENT
61 LATIN SMALL LETTER A
62 LATIN SMALL LETTER B
63 LATIN SMALL LETTER C
64 LATIN SMALL LETTER D
65 LATIN SMALL LETTER E
66 LATIN SMALL LETTER F
67 LATIN SMALL LETTER G
68 LATIN SMALL LETTER H
69 LATIN SMALL LETTER I
6A LATIN SMALL LETTER J
6B LATIN SMALL LETTER K
6C LATIN SMALL LETTER L
6D LATIN SMALL LETTER M
6E LATIN SMALL LETTER N
6F LATIN SMALL LETTER O
70 LATIN SMALL LETTER P
71 LATIN SMALL LETTER Q
72 LATIN SMALL LETTER R
73 LATIN SMALL LETTER S
74 LATIN SMALL LETTER T
75 LATIN SMALL LETTER U
76 LATIN SMALL LETTER V
77 LATIN SMALL LETTER W
78 LATIN SMALL LETTER X
79 LATIN SMALL LETTER Y
7A LATIN SMALL LETTER Z
7B LEFT CURLY BRACKET
7C VERTICAL LINE
7D RIGHT CURLY BRACKET
7E TILDE
A0 NO-BREAK SPACE
A1 INVERTED EXCLAMATION MARK
A2 CENT SIGN
A3 POUND SIGN
A4 CURRENCY SIGN
A5 YEN SIGN
A6 BROKEN BAR
A7 SECTION SIGN
A8 DIAERESIS
A9 COPYRIGHT SIGN
AA FEMININE ORDINAL INDICATOR
AB LEFT-POINTING DOUBLE ANGLE QUOTATION MARK
AC NOT SIGN
AD SOFT HYPHEN
AE REGISTERED SIGN
AF MACRON
B0 DEGREE SIGN
B1 PLUS-MINUS SIGN
B2 SUPERSCRIPT TWO
B3 SUPERSCRIPT THREE
B4 ACUTE ACCENT
B5 MICRO SIGN
B6 PILCROW SIGN
B7 MIDDLE DOT
B8 CEDILLA
B9 SUPERSCRIPT ONE
BA MASCULINE ORDINAL INDICATOR
BB RIGHT-POINTING DOUBLE ANGLE QUOTATION MARK
BC VULGAR FRACTION ONE QUARTER
BD VULGAR FRACTION ONE HALF
BE VULGAR FRACTION THREE QUARTERS
BF INVERTED QUESTION MARK
C0 LATIN CAPITAL LETTER A WITH GRAVE
C1 LATIN CAPITAL LETTER A WITH ACUTE
C2 LATIN CAPITAL LETTER A WITH CIRCUMFLEX
C3 LATIN CAPITAL LETTER A WITH TILDE
C4 LATIN CAPITAL LETTER A WITH DIAERESIS
C5 LATIN CAPITAL LETTER A WITH RING ABOVE
C6 LATIN CAPITAL LETTER AE
C7 LATIN CAPITAL LETTER C WITH CEDILLA
C8 LATIN CAPITAL LETTER E WITH GRAVE
C9 LATIN CAPITAL LETTER E WITH ACUTE
CA LATIN CAPITAL LETTER E WITH CIRCUMFLEX
CB LATIN CAPITAL LETTER E WITH DIAERESIS
CC LATIN CAPITAL LETTER I WITH GRAVE
CD LATIN CAPITAL LETTER I WITH ACUTE
CE LATIN CAPITAL LETTER I WITH CIRCUMFLEX
CF LATIN CAPITAL LETTER I WITH DIAERESIS
D0 LATIN CAPITAL LETTER ETH
D1 LATIN CAPITAL LETTER N WITH TILDE
D2 LATIN CAPITAL LETTER O WITH GRAVE
D3 LATIN CAPITAL LETTER O WITH ACUTE
D4 LATIN CAPITAL LETTER O WITH CIRCUMFLEX
D5 LATIN CAPITAL LETTER O WITH TILDE
D6 LATIN CAPITAL LETTER O WITH DIAERESIS
D7 MULTIPLICATION SIGN
D8 LATIN CAPITAL LETTER O WITH STROKE
D9 LATIN CAPITAL LETTER U WITH GRAVE
DA LATIN CAPITAL LETTER U WITH ACUTE
DB LATIN CAPITAL LETTER U WITH CIRCUMFLEX
DC LATIN CAPITAL LETTER U WITH DIAERESIS
DD LATIN CAPITAL LETTER Y WITH ACUTE
DE LATIN CAPITAL LETTER THORN
DF LATIN SMALL LETTER SHARP S
E0 LATIN SMALL LETTER A WITH GRAVE
E1 LATIN SMALL LETTER A WITH ACUTE
E2 LATIN SMALL LETTER A WITH CIRCUMFLEX
E3 LATIN SMALL LETTER A WITH TILDE
E4 LATIN SMALL LETTER A WITH DIAERESIS
E5 LATIN SMALL LETTER A WITH RING ABOVE
E6 LATIN SMALL LETTER AE
E7 LATIN SMALL LETTER C WITH CEDILLA
E8 LATIN SMALL LETTER E WITH GRAVE
E9 LATIN SMALL LETTER E WITH ACUTE
EA LATIN SMALL LETTER E WITH CIRCUMFLEX
EB LATIN SMALL LETTER E WITH DIAERESIS
EC LATIN SMALL LETTER I WITH GRAVE
ED LATIN SMALL LETTER I WITH ACUTE
EE LATIN SMALL LETTER I WITH CIRCUMFLEX
EF LATIN SMALL LETTER I WITH DIAERESIS
F0 LATIN SMALL LETTER ETH
F1 LATIN SMALL LETTER N WITH TILDE
F2 LATIN SMALL LETTER O WITH GRAVE
F3 LATIN SMALL LETTER O WITH ACUTE
F4 LATIN SMALL LETTER O WITH CIRCUMFLEX
F5 LATIN SMALL LETTER O WITH TILDE
F6 LATIN SMALL LETTER O WITH DIAERESIS
F7 DIVISION SIGN
F8 LATIN SMALL LETTER O WITH STROKE
F9 LATIN SMALL LETTER U WITH GRAVE
FA LATIN SMALL LETTER U WITH ACUTE
FB LATIN SMALL LETTER U WITH CIRCUMFLEX
FC LATIN SMALL LETTER U WITH DIAERESIS
FD LATIN SMALL LETTER Y WITH ACUTE
FE LATIN SMALL LETTER THORN
FF LATIN SMALL LETTER Y WITH DIAERESIS
100 LATIN CAPITAL LETTER A WITH MACRON
101 LATIN SMALL LETTER A WITH MACRON
102 LATIN CAPITAL LETTER A WITH BREVE
103 LATIN SMALL LETTER A WITH BREVE
104 LATIN CAPITAL LETTER A WITH OGONEK
105 LATIN SMALL LETTER A WITH OGONEK
106 LATIN CAPITAL LETTER C WITH ACUTE
107 LATIN SMALL LETTER C WITH ACUTE
108 LATIN CAPITAL LETTER C WITH CIRCUMFLEX
109 LATIN SMALL LETTER C WITH CIRCUMFLEX
10A LATIN CAPITAL LETTER C WITH DOT ABOVE
10B LATIN SMALL LETTER C WITH DOT ABOVE
10C LATIN CAPITAL LETTER C WITH CARON
10D LATIN SMALL LETTER C WITH CARON
10E LATIN CAPITAL LETTER D WITH CARON
10F LATIN SMALL LETTER D WITH CARON
110 LATIN CAPITAL LETTER D WITH STROKE
111 LATIN SMALL LETTER D WITH STROKE
112 LATIN CAPITAL LETTER E WITH MACRON
113 LATIN SMALL LETTER E WITH MACRON
114 LATIN CAPITAL LETTER E WITH BREVE
115 LATIN SMALL LETTER E WITH BREVE
116 LATIN CAPITAL LETTER E WITH DOT ABOVE
117 LATIN SMALL LETTER E WITH DOT ABOVE
118 LATIN CAPITAL LETTER E WITH OGONEK
119 LATIN SMALL LETTER E WITH OGONEK
11A LATIN CAPITAL LETTER E WITH CARON
11B LATIN SMALL LETTER E WITH CARON
11C LATIN CAPITAL LETTER G WITH CIRCUMFLEX
11D LATIN SMALL LETTER G WITH CIRCUMFLEX
11E LATIN CAPITAL LETTER G WITH BREVE
11F LATIN SMALL LETTER G WITH BREVE
120 LATIN CAPITAL LETTER G WITH DOT ABOVE
121 LATIN SMALL LETTER G WITH DOT ABOVE
122 LATIN CAPITAL LETTER G WITH CEDILLA
123 LATIN SMALL LETTER G WITH CEDILLA
124 LATIN CAPITAL LETTER H WITH CIRCUMFLEX
125 LATIN SMALL LETTER H WITH CIRCUMFLEX
126 LATIN CAPITAL LETTER H WITH STROKE
127 LATIN SMALL LETTER H WITH STROKE
128 LATIN CAPITAL LETTER I WITH TILDE
129 LATIN SMALL LETTER I WITH TILDE
12A LATIN CAPITAL LETTER I WITH MACRON
12B LATIN SMALL LETTER I WITH MACRON
12C LATIN CAPITAL LETTER I WITH BREVE
12D LATIN SMALL LETTER I WITH BREVE
12E LATIN CAPITAL LETTER I WITH OGONEK
12F LATIN SMALL LETTER I WITH OGONEK
130 LATIN CAPITAL LETTER I WITH DOT ABOVE
131 LATIN SMALL LETTER DOTLESS I
132 LATIN CAPITAL LIGATURE IJ
133 LATIN SMALL LIGATURE IJ
134 LATIN CAPITAL LETTER J WITH CIRCUMFLEX
135 LATIN SMALL LETTER J WITH CIRCUMFLEX
136 LATIN CAPITAL LETTER K WITH CEDILLA
137 LATIN SMALL LETTER K WITH CEDILLA
138 LATIN SMALL LETTER KRA
139 LATIN CAPITAL LETTER L WITH ACUTE
13A LATIN SMALL LETTER L WITH ACUTE
13B LATIN CAPITAL LETTER L WITH CEDILLA
13C LATIN SMALL LETTER L WITH CEDILLA
13D LATIN CAPITAL LETTER L WITH CARON
13E LATIN SMALL LETTER L WITH CARON
13F LATIN CAPITAL LETTER L WITH MIDDLE DOT
140 LATIN SMALL LETTER L WITH MIDDLE DOT
141 LATIN CAPITAL LETTER L WITH STROKE
142 LATIN SMALL LETTER L WITH STROKE
143 LATIN CAPITAL LETTER N WITH ACUTE
144 LATIN SMALL LETTER N WITH ACUTE
145 LATIN CAPITAL LETTER N WITH CEDILLA
146 LATIN SMALL LETTER N WITH CEDILLA
147 LATIN CAPITAL LETTER N WITH CARON
148 LATIN SMALL LETTER N WITH CARON
149 LATIN SMALL LETTER N PRECEDED BY APOSTROPHE
14A LATIN CAPITAL LETTER ENG
14B LATIN SMALL LETTER ENG
14C LATIN CAPITAL LETTER O WITH MACRON
14D LATIN SMALL LETTER O WITH MACRON
14E LATIN CAPITAL LETTER O WITH BREVE
14F LATIN SMALL LETTER O WITH BREVE
150 LATIN CAPITAL LETTER O WITH DOUBLE ACUTE
151 LATIN SMALL LETTER O WITH DOUBLE ACUTE
152 LATIN CAPITAL LIGATURE OE
153 LATIN SMALL LIGATURE OE
154 LATIN CAPITAL LETTER R WITH ACUTE
155 LATIN SMALL LETTER R WITH ACUTE
156 LATIN CAPITAL LETTER R WITH CEDILLA
157 LATIN SMALL LETTER R WITH CEDILLA
158 LATIN CAPITAL LETTER R WITH CARON
159 LATIN SMALL LETTER R WITH CARON
15A LATIN CAPITAL LETTER S WITH ACUTE
15B LATIN SMALL LETTER S WITH ACUTE
15C LATIN CAPITAL LETTER S WITH CIRCUMFLEX
15D LATIN SMALL LETTER S WITH CIRCUMFLEX
15E LATIN CAPITAL LETTER S WITH CEDILLA
15F LATIN SMALL LETTER S WITH CEDILLA
160 LATIN CAPITAL LETTER S WITH CARON
161 LATIN SMALL LETTER S WITH CARON
162 LATIN CAPITAL LETTER T WITH CEDILLA
163 LATIN SMALL LETTER T WITH CEDILLA
164 LATIN CAPITAL LETTER T WITH CARON
165 LATIN SMALL LETTER T WITH CARON
166 LATIN CAPITAL LETTER T WITH STROKE
167 LATIN SMALL LETTER T WITH STROKE
168 LATIN CAPITAL LETTER U WITH TILDE
169 LATIN SMALL LETTER U WITH TILDE
16A LATIN CAPITAL LETTER U WITH MACRON
16B LATIN SMALL LETTER U WITH MACRON
16C LATIN CAPITAL LETTER U WITH BREVE
16D LATIN SMALL LETTER U WITH BREVE
16E LATIN CAPITAL LETTER U WITH RING ABOVE
16F LATIN SMALL LETTER U WITH RING ABOVE
170 LATIN CAPITAL LETTER U WITH DOUBLE ACUTE
171 LATIN SMALL LETTER U WITH DOUBLE ACUTE
172 LATIN CAPITAL LETTER U WITH OGONEK
173 LATIN SMALL LETTER U WITH OGONEK
174 LATIN CAPITAL LETTER W WITH CIRCUMFLEX
175 LATIN SMALL LETTER W WITH CIRCUMFLEX
176 LATIN CAPITAL LETTER Y WITH CIRCUMFLEX
177 LATIN SMALL LETTER Y WITH CIRCUMFLEX
178 LATIN CAPITAL LETTER Y WITH DIAERESIS
179 LATIN CAPITAL LETTER Z WITH ACUTE
17A LATIN SMALL LETTER Z WITH ACUTE
17B LATIN CAPITAL LETTER Z WITH DOT ABOVE
17C LATIN SMALL LETTER Z WITH DOT ABOVE
17D LATIN CAPITAL LETTER Z WITH CARON
17E LATIN SMALL LETTER Z WITH CARON
17F LATIN SMALL LETTER LONG S
180 LATIN SMALL LETTER B WITH STROKE
181 LATIN CAPITAL LETTER B WITH HOOK
182 LATIN CAPITAL LETTER B WITH TOPBAR
183 LATIN SMALL LETTER B WITH TOPBAR
184 LATIN CAPITAL LETTER TONE SIX
185 LATIN SMALL LETTER TONE SIX
186 LATIN CAPITAL LETTER OPEN O
187 LATIN CAPITAL LETTER C WITH HOOK
188 LATIN SMALL LETTER C WITH HOOK
189 LATIN CAPITAL LETTER AFRICAN D
18A LATIN CAPITAL LETTER D WITH HOOK
18B LATIN CAPITAL LETTER D WITH TOPBAR
18C LATIN SMALL LETTER D WITH TOPBAR
18D LATIN SMALL LETTER TURNED DELTA
18E LATIN CAPITAL LETTER REVERSED E
18F LATIN CAPITAL LETTER SCHWA
190 LATIN CAPITAL LETTER OPEN E
191 LATIN CAPITAL LETTER F WITH HOOK
192 LATIN SMALL LETTER F WITH HOOK
193 LATIN CAPITAL LETTER G WITH HOOK
194 LATIN CAPITAL LETTER GAMMA
195 LATIN SMALL LETTER HV
196 LATIN CAPITAL LETTER IOTA
197 LATIN CAPITAL LETTER I WITH STROKE
198 LATIN CAPITAL LETTER K WITH HOOK
199 LATIN SMALL LETTER K WITH HOOK
19A LATIN SMALL LETTER L WITH BAR
19B LATIN SMALL LETTER LAMBDA WITH STROKE
19C LATIN CAPITAL LETTER TURNED M
19D LATIN CAPITAL LETTER N WITH LEFT HOOK
19E LATIN SMALL LETTER N WITH LONG RIGHT LEG
19F LATIN CAPITAL LETTER O WITH MIDDLE TILDE
1A0 LATIN CAPITAL LETTER O WITH HORN
1A1 LATIN SMALL LETTER O WITH HORN
1A2 LATIN CAPITAL LETTER OI
1A3 LATIN SMALL LETTER OI
1A4 LATIN CAPITAL LETTER P WITH HOOK
1A5 LATIN SMALL LETTER P WITH HOOK
1A6 LATIN LETTER YR
1A7 LATIN CAPITAL LETTER TONE TWO
1A8 LATIN SMALL LETTER TONE TWO
1A9 LATIN CAPITAL LETTER ESH
1AA LATIN LETTER REVERSED ESH LOOP
1AB LATIN SMALL LETTER T WITH PALATAL HOOK
1AC LATIN CAPITAL LETTER T WITH HOOK
1AD LATIN SMALL LETTER T WITH HOOK
1AE LATIN CAPITAL LETTER T WITH RETROFLEX HOOK
1AF LATIN CAPITAL LETTER U WITH HORN
1B0 LATIN SMALL LETTER U WITH HORN
1B1 LATIN CAPITAL LETTER UPSILON
1B2 LATIN CAPITAL LETTER V WITH HOOK
1B3 LATIN CAPITAL LETTER Y WITH HOOK
1B4 LATIN SMALL LETTER Y WITH HOOK
1B5 LATIN CAPITAL LETTER Z WITH STROKE
1B6 LATIN SMALL LETTER Z WITH STROKE
1B7 LATIN CAPITAL LETTER EZH
1B8 LATIN CAPITAL LETTER EZH REVERSED
1B9 LATIN SMALL LETTER EZH REVERSED
1BA LATIN SMALL LETTER EZH WITH TAIL
1BB LATIN LETTER TWO WITH STROKE
1BC LATIN CAPITAL LETTER TONE FIVE
1BD LATIN SMALL LETTER TONE FIVE
1BE LATIN LETTER INVERTED GLOTTAL STOP WITH STROKE
1BF LATIN LETTER WYNN
1C0 LATIN LETTER DENTAL CLICK
1C1 LATIN LETTER LATERAL CLICK
1C2 LATIN LETTER ALVEOLAR CLICK
1C3 LATIN LETTER RETROFLEX CLICK
1C4 LATIN CAPITAL LETTER DZ WITH CARON
1C5 LATIN CAPITAL LETTER D WITH SMALL LETTER Z WITH CARON
1C6 LATIN SMALL LETTER DZ WITH CARON
1C7 LATIN CAPITAL LETTER LJ
1C8 LATIN CAPITAL LETTER L WITH SMALL LETTER J
1C9 LATIN SMALL LETTER LJ
1CA LATIN CAPITAL LETTER NJ
1CB LATIN CAPITAL LETTER N WITH SMALL LETTER J
1CC LATIN SMALL LETTER NJ
1CD LATIN CAPITAL LETTER A WITH CARON
1CE LATIN SMALL LETTER A WITH CARON
1CF LATIN CAPITAL LETTER I WITH CARON
1D0 LATIN SMALL LETTER I WITH CARON
1D1 LATIN CAPITAL LETTER O WITH CARON
1D2 LATIN SMALL LETTER O WITH CARON
1D3 LATIN CAPITAL LETTER U WITH CARON
1D4 LATIN SMALL LETTER U WITH CARON
1D5 LATIN CAPITAL LETTER U WITH DIAERESIS AND MACRON
1D6 LATIN SMALL LETTER U WITH DIAERESIS AND MACRON
1D7 LATIN CAPITAL LETTER U WITH DIAERESIS AND ACUTE
1D8 LATIN SMALL LETTER U WITH DIAERESIS AND ACUTE
1D9 LATIN CAPITAL LETTER U WITH DIAERESIS AND CARON
1DA LATIN SMALL LETTER U WITH DIAERESIS AND CARON
1DB LATIN CAPITAL LETTER U WITH DIAERESIS AND GRAVE
1DC LATIN SMALL LETTER U WITH DIAERESIS AND GRAVE
1DD LATIN SMALL LETTER TURNED E
1DE LATIN CAPITAL LETTER A WITH DIAERESIS AND MACRON
1DF LATIN SMALL LETTER A WITH DIAERESIS AND MACRON
1E0 LATIN CAPITAL LETTER A WITH DOT ABOVE AND MACRON
1E1 LATIN SMALL LETTER A WITH DOT ABOVE AND MACRON
1E2 LATIN CAPITAL LETTER AE WITH MACRON
1E3 LATIN SMALL LETTER AE WITH MACRON
1E4 LATIN CAPITAL LETTER G WITH STROKE
1E5 LATIN SMALL LETTER G WITH STROKE
1E6 LATIN CAPITAL LETTER G WITH CARON
1E7 LATIN SMALL LETTER G WITH CARON
1E8 LATIN CAPITAL LETTER K WITH CARON
1E9 LATIN SMALL LETTER K WITH CARON
1EA LATIN CAPITAL LETTER O WITH OGONEK
1EB LATIN SMALL LETTER O WITH OGONEK
1EC LATIN CAPITAL LETTER O WITH OGONEK AND MACRON
1ED LATIN SMALL LETTER O WITH OGONEK AND MACRON
1EE LATIN CAPITAL LETTER EZH WITH CARON
1EF LATIN SMALL LETTER EZH WITH CARON
1F0 LATIN SMALL LETTER J WITH CARON
1F1 LATIN CAPITAL LETTER DZ
1F2 LATIN CAPITAL LETTER D WITH SMALL LETTER Z
1F3 LATIN SMALL LETTER DZ
1F4 LATIN CAPITAL LETTER G WITH ACUTE
1F5 LATIN SMALL LETTER G WITH ACUTE
1F6 LATIN CAPITAL LETTER HWAIR
1F7 LATIN CAPITAL LETTER WYNN
1F8 LATIN CAPITAL LETTER N WITH GRAVE
1F9 LATIN SMALL LETTER N WITH GRAVE
1FA LATIN CAPITAL LETTER A WITH RING ABOVE AND ACUTE
1FB LATIN SMALL LETTER A WITH RING ABOVE AND ACUTE
1FC LATIN CAPITAL LETTER AE WITH ACUTE
1FD LATIN SMALL LETTER AE WITH ACUTE
1FE LATIN CAPITAL LETTER O WITH STROKE AND ACUTE
1FF LATIN SMALL LETTER O WITH STROKE AND ACUTE
200 LATIN CAPITAL LETTER A WITH DOUBLE GRAVE
201 LATIN SMALL LETTER A WITH DOUBLE GRAVE
202 LATIN CAPITAL LETTER A WITH INVERTED BREVE
203 LATIN SMALL LETTER A WITH INVERTED BREVE
204 LATIN CAPITAL LETTER E WITH DOUBLE GRAVE
205 LATIN SMALL LETTER E WITH DOUBLE GRAVE
206 LATIN CAPITAL LETTER E WITH INVERTED BREVE
207 LATIN SMALL LETTER E WITH INVERTED BREVE
208 LATIN CAPITAL LETTER I WITH DOUBLE GRAVE
209 LATIN SMALL LETTER I WITH DOUBLE GRAVE
20A LATIN CAPITAL LETTER I WITH INVERTED BREVE
20B LATIN SMALL LETTER I WITH INVERTED BREVE
20C LATIN CAPITAL LETTER O WITH DOUBLE GRAVE
20D LATIN SMALL LETTER O WITH DOUBLE GRAVE
20E LATIN CAPITAL LETTER O WITH INVERTED BREVE
20F LATIN SMALL LETTER O WITH INVERTED BREVE
210 LATIN CAPITAL LETTER R WITH DOUBLE GRAVE
211 LATIN SMALL LETTER R WITH DOUBLE GRAVE
212 LATIN CAPITAL LETTER R WITH INVERTED BREVE
213 LATIN SMALL LETTER R WITH INVERTED BREVE
214 LATIN CAPITAL LETTER U WITH DOUBLE GRAVE
215 LATIN SMALL LETTER U WITH DOUBLE GRAVE
216 LATIN CAPITAL LETTER U WITH INVERTED BREVE
217 LATIN SMALL LETTER U WITH INVERTED BREVE
218 LATIN CAPITAL LETTER S WITH COMMA BELOW
219 LATIN SMALL LETTER S WITH COMMA BELOW
21A LATIN CAPITAL LETTER T WITH COMMA BELOW
21B LATIN SMALL LETTER T WITH COMMA BELOW
21C LATIN CAPITAL LETTER YOGH
21D LATIN SMALL LETTER YOGH
21E LATIN CAPITAL LETTER H WITH CARON
21F LATIN SMALL LETTER H WITH CARON
220 LATIN CAPITAL LETTER N WITH LONG RIGHT LEG
221 LATIN SMALL LETTER D WITH CURL
222 LATIN CAPITAL LETTER OU
223 LATIN SMALL LETTER OU
224 LATIN CAPITAL LETTER Z WITH HOOK
225 LATIN SMALL LETTER Z WITH HOOK
226 LATIN CAPITAL LETTER A WITH DOT ABOVE
227 LATIN SMALL LETTER A WITH DOT ABOVE
228 LATIN CAPITAL LETTER E WITH CEDILLA
229 LATIN SMALL LETTER E WITH CEDILLA
22A LATIN CAPITAL LETTER O WITH DIAERESIS AND MACRON
22B LATIN SMALL LETTER O WITH DIAERESIS AND MACRON
22C LATIN CAPITAL LETTER O WITH TILDE AND MACRON
22D LATIN SMALL LETTER O WITH TILDE AND MACRON
22E LATIN CAPITAL LETTER O WITH DOT ABOVE
22F LATIN SMALL LETTER O WITH DOT ABOVE
230 LATIN CAPITAL LETTER O WITH DOT ABOVE AND MACRON
231 LATIN SMALL LETTER O WITH DOT ABOVE AND MACRON
232 LATIN CAPITAL LETTER Y WITH MACRON
233 LATIN SMALL LETTER Y WITH MACRON
234 LATIN SMALL LETTER L WITH CURL
235 LATIN SMALL LETTER N WITH CURL
236 LATIN SMALL LETTER T WITH CURL
237 LATIN SMALL LETTER DOTLESS J
238 LATIN SMALL LETTER DB DIGRAPH
239 LATIN SMALL LETTER QP DIGRAPH
23A LATIN CAPITAL LETTER A WITH STROKE
23B LATIN CAPITAL LETTER C WITH STROKE
23C LATIN SMALL LETTER C WITH STROKE
23D LATIN CAPITAL LETTER L WITH BAR
23E LATIN CAPITAL LETTER T WITH DIAGONAL STROKE
23F LATIN SMALL LETTER S WITH SWASH TAIL
240 LATIN SMALL LETTER Z WITH SWASH TAIL
241 LATIN CAPITAL LETTER GLOTTAL STOP
242 LATIN SMALL LETTER GLOTTAL STOP
243 LATIN CAPITAL LETTER B WITH STROKE
244 LATIN CAPITAL LETTER U BAR
245 LATIN CAPITAL LETTER TURNED V
246 LATIN CAPITAL LETTER E WITH STROKE
247 LATIN SMALL LETTER E WITH STROKE
248 LATIN CAPITAL LETTER J WITH STROKE
249 LATIN SMALL LETTER J WITH STROKE
24A LATIN CAPITAL LETTER SMALL Q WITH HOOK TAIL
24B LATIN SMALL LETTER Q WITH HOOK TAIL
24C LATIN CAPITAL LETTER R WITH STROKE
24D LATIN SMALL LETTER R WITH STROKE
24E LATIN CAPITAL LETTER Y WITH STROKE
24F LATIN SMALL LETTER Y WITH STROKE
250 LATIN SMALL LETTER TURNED A
251 LATIN SMALL LETTER ALPHA
252 LATIN SMALL LETTER TURNED ALPHA
253 LATIN SMALL LETTER B WITH HOOK
254 LATIN SMALL LETTER OPEN O
255 LATIN SMALL LETTER C WITH CURL
256 LATIN SMALL LETTER D WITH TAIL
257 LATIN SMALL LETTER D WITH HOOK
258 LATIN SMALL LETTER REVERSED E
259 LATIN SMALL LETTER SCHWA
25A LATIN SMALL LETTER SCHWA WITH HOOK
25B LATIN SMALL LETTER OPEN E
25C LATIN SMALL LETTER REVERSED OPEN E
25D LATIN SMALL LETTER REVERSED OPEN E WITH HOOK
25E LATIN SMALL LETTER CLOSED REVERSED OPEN E
25F LATIN SMALL LETTER DOTLESS J WITH STROKE
260 LATIN SMALL LETTER G WITH HOOK
261 LATIN SMALL LETTER SCRIPT G
262 LATIN LETTER SMALL CAPITAL G
263 LATIN SMALL LETTER GAMMA
264 LATIN SMALL LETTER RAMS HORN
265 LATIN SMALL LETTER TURNED H
266 LATIN SMALL LETTER H WITH HOOK
267 LATIN SMALL LETTER HENG WITH HOOK
268 LATIN SMALL LETTER I WITH STROKE
269 LATIN SMALL LETTER IOTA
26A LATIN LETTER SMALL CAPITAL I
26B LATIN SMALL LETTER L WITH MIDDLE TILDE
26C LATIN SMALL LETTER L WITH BELT
26D LATIN SMALL LETTER L WITH RETROFLEX HOOK
26E LATIN SMALL LETTER LEZH
26F LATIN SMALL LETTER TURNED M
270 LATIN SMALL LETTER TURNED M WITH LONG LEG
271 LATIN SMALL LETTER M WITH HOOK
272 LATIN SMALL LETTER N WITH LEFT HOOK
273 LATIN SMALL LETTER N WITH RETROFLEX HOOK
274 LATIN LETTER SMALL CAPITAL N
275 LATIN SMALL LETTER BARRED O
276 LATIN LETTER SMALL CAPITAL OE
277 LATIN SMALL LETTER CLOSED OMEGA
278 LATIN SMALL LETTER PHI
279 LATIN SMALL LETTER TURNED R
27A LATIN SMALL LETTER TURNED R WITH LONG LEG
27B LATIN SMALL LETTER TURNED R WITH HOOK
27C LATIN SMALL LETTER R WITH LONG LEG
27D LATIN SMALL LETTER R WITH TAIL
27E LATIN SMALL LETTER R WITH FISHHOOK
27F LATIN SMALL LETTER REVERSED R WITH FISHHOOK
280 LATIN LETTER SMALL CAPITAL R
281 LATIN LETTER SMALL CAPITAL INVERTED R
282 LATIN SMALL LETTER S WITH HOOK
283 LATIN SMALL LETTER ESH
284 LATIN SMALL LETTER DOTLESS J WITH STROKE AND HOOK
285 LATIN SMALL LETTER SQUAT REVERSED ESH
286 LATIN SMALL LETTER ESH WITH CURL
287 LATIN SMALL LETTER TURNED T
288 LATIN SMALL LETTER T WITH RETROFLEX HOOK
289 LATIN SMALL LETTER U BAR
28A LATIN SMALL LETTER UPSILON
28B LATIN SMALL LETTER V WITH HOOK
28C LATIN SMALL LETTER TURNED V
28D LATIN SMALL LETTER TURNED W
28E LATIN SMALL LETTER TURNED Y
28F LATIN LETTER SMALL CAPITAL Y
290 LATIN SMALL LETTER Z WITH RETROFLEX HOOK
291 LATIN SMALL LETTER Z WITH CURL
292 LATIN SMALL LETTER EZH
293 LATIN SMALL LETTER EZH WITH CURL
294 LATIN LETTER GLOTTAL STOP
295 LATIN LETTER PHARYNGEAL VOICED FRICATIVE
296 LATIN LETTER INVERTED GLOTTAL STOP
297 LATIN LETTER STRETCHED C
298 LATIN LETTER BILABIAL CLICK
299 LATIN LETTER SMALL CAPITAL B
29A LATIN SMALL LETTER CLOSED OPEN E
29B LATIN LETTER SMALL CAPITAL G WITH HOOK
29C LATIN LETTER SMALL CAPITAL H
29D LATIN SMALL LETTER J WITH CROSSED-TAIL
29E LATIN SMALL LETTER TURNED K
29F LATIN LETTER SMALL CAPITAL L
2A0 LATIN SMALL LETTER Q WITH HOOK
2A1 LATIN LETTER GLOTTAL STOP WITH STROKE
2A2 LATIN LETTER REVERSED GLOTTAL STOP WITH STROKE
2A3 LATIN SMALL LETTER DZ DIGRAPH
2A4 LATIN SMALL LETTER DEZH DIGRAPH
2A5 LATIN SMALL LETTER DZ DIGRAPH WITH CURL
2A6 LATIN SMALL LETTER TS DIGRAPH
2A7 LATIN SMALL LETTER TESH DIGRAPH
2A8 LATIN SMALL LETTER TC DIGRAPH WITH CURL
2A9 LATIN SMALL LETTER FENG DIGRAPH
2AA LATIN SMALL LETTER LS DIGRAPH
2AB LATIN SMALL LETTER LZ DIGRAPH
2AC LATIN LETTER BILABIAL PERCUSSIVE
2AD LATIN LETTER BIDENTAL PERCUSSIVE
2AE LATIN SMALL LETTER TURNED H WITH FISHHOOK
2AF LATIN SMALL LETTER TURNED H WITH FISHHOOK AND TAIL
2B0 MODIFIER LETTER SMALL H
2B1 MODIFIER LETTER SMALL H WITH HOOK
2B2 MODIFIER LETTER SMALL J
2B3 MODIFIER LETTER SMALL R
2B4 MODIFIER LETTER SMALL TURNED R
2B5 MODIFIER LETTER SMALL TURNED R WITH HOOK
2B6 MODIFIER LETTER SMALL CAPITAL INVERTED R
2B7 MODIFIER LETTER SMALL W
2B8 MODIFIER LETTER SMALL Y
2B9 MODIFIER LETTER PRIME
2BA MODIFIER LETTER DOUBLE PRIME
2BB MODIFIER LETTER TURNED COMMA
2BC MODIFIER LETTER APOSTROPHE
2BD MODIFIER LETTER REVERSED COMMA
2BE MODIFIER LETTER RIGHT HALF RING
2BF MODIFIER LETTER LEFT HALF RING
2C0 MODIFIER LETTER GLOTTAL STOP
2C1 MODIFIER LETTER REVERSED GLOTTAL STOP
2C2 MODIFIER LETTER LEFT ARROWHEAD
2C3 MODIFIER LETTER RIGHT ARROWHEAD
2C4 MODIFIER LETTER UP ARROWHEAD
2C5 MODIFIER LETTER DOWN ARROWHEAD
2C6 MODIFIER LETTER CIRCUMFLEX ACCENT
2C7 CARON
2C8 MODIFIER LETTER VERTICAL LINE
2C9 MODIFIER LETTER MACRON
2CA MODIFIER LETTER ACUTE ACCENT
2CB MODIFIER LETTER GRAVE ACCENT
2CC MODIFIER LETTER LOW VERTICAL LINE
2CD MODIFIER LETTER LOW MACRON
2CE MODIFIER LETTER LOW GRAVE ACCENT
2CF MODIFIER LETTER LOW ACUTE ACCENT
2D0 MODIFIER LETTER TRIANGULAR COLON
2D1 MODIFIER LETTER HALF TRIANGULAR COLON
2D2 MODIFIER LETTER CENTRED RIGHT HALF RING
2D3 MODIFIER LETTER CENTRED LEFT HALF RING
2D4 MODIFIER LETTER UP TACK
2D5 MODIFIER LETTER DOWN TACK
2D6 MODIFIER LETTER PLUS SIGN
2D7 MODIFIER LETTER MINUS SIGN
2D8 BREVE
2D9 DOT ABOVE
2DA RING ABOVE
2DB OGONEK
2DC SMALL TILDE
2DD DOUBLE ACUTE ACCENT
2DE MODIFIER LETTER RHOTIC HOOK
2DF MODIFIER LETTER CROSS ACCENT
2E0 MODIFIER LETTER SMALL GAMMA
2E1 MODIFIER LETTER SMALL L
2E2 MODIFIER LETTER SMALL S
2E3 MODIFIER LETTER SMALL X
2E4 MODIFIER LETTER SMALL REVERSED GLOTTAL STOP
2E5 MODIFIER LETTER EXTRA-HIGH TONE BAR
2E6 MODIFIER LETTER HIGH TONE BAR
2E7 MODIFIER LETTER MID TONE BAR
2E8 MODIFIER LETTER LOW TONE BAR
2E9 MODIFIER LETTER EXTRA-LOW TONE BAR
2EA MODIFIER LETTER YIN DEPARTING TONE MARK
2EB MODIFIER LETTER YANG DEPARTING TONE MARK
2EC MODIFIER LETTER VOICING
2ED MODIFIER LETTER UNASPIRATED
2EE MODIFIER LETTER DOUBLE APOSTROPHE
2EF MODIFIER LETTER LOW DOWN ARROWHEAD
2F0 MODIFIER LETTER LOW UP ARROWHEAD
2F1 MODIFIER LETTER LOW LEFT ARROWHEAD
2F2 MODIFIER LETTER LOW RIGHT ARROWHEAD
2F3 MODIFIER LETTER LOW RING
2F4 MODIFIER LETTER MIDDLE GRAVE ACCENT
2F5 MODIFIER LETTER MIDDLE DOUBLE GRAVE ACCENT
2F6 MODIFIER LETTER MIDDLE DOUBLE ACUTE ACCENT
2F7 MODIFIER LETTER LOW TILDE
2F8 MODIFIER LETTER RAISED COLON
2F9 MODIFIER LETTER BEGIN HIGH TONE
2FA MODIFIER LETTER END HIGH TONE
2FB MODIFIER LETTER BEGIN LOW TONE
2FC MODIFIER LETTER END LOW TONE
2FD MODIFIER LETTER SHELF
2FE MODIFIER LETTER OPEN SHELF
2FF MODIFIER LETTER LOW LEFT ARROW
300 COMBINING GRAVE ACCENT
301 COMBINING ACUTE ACCENT
302 COMBINING CIRCUMFLEX ACCENT
303 COMBINING TILDE
304 COMBINING MACRON
305 COMBINING OVERLINE
306 COMBINING BREVE
307 COMBINING DOT ABOVE
308 COMBINING DIAERESIS
309 COMBINING HOOK ABOVE
30A COMBINING RING ABOVE
30B COMBINING DOUBLE ACUTE ACCENT
30C COMBINING CARON
30D COMBINING VERTICAL LINE ABOVE
30E COMBINING DOUBLE VERTICAL LINE ABOVE
30F COMBINING DOUBLE GRAVE ACCENT
310 COMBINING CANDRABINDU
311 COMBINING INVERTED BREVE
312 COMBINING TURNED COMMA ABOVE
313 COMBINING COMMA ABOVE
314 COMBINING REVERSED COMMA ABOVE
315 COMBINING COMMA ABOVE RIGHT
316 COMBINING GRAVE ACCENT BELOW
317 COMBINING ACUTE ACCENT BELOW
318 COMBINING LEFT TACK BELOW
319 COMBINING RIGHT TACK BELOW
31A COMBINING LEFT ANGLE ABOVE
31B COMBINING HORN
31C COMBINING LEFT HALF RING BELOW
31D COMBINING UP TACK BELOW
31E COMBINING DOWN TACK BELOW
31F COMBINING PLUS SIGN BELOW
320 COMBINING MINUS SIGN BELOW
321 COMBINING PALATALIZED HOOK BELOW
322 COMBINING RETROFLEX HOOK BELOW
323 COMBINING DOT BELOW
324 COMBINING DIAERESIS BELOW
325 COMBINING RING BELOW
326 COMBINING COMMA BELOW
327 COMBINING CEDILLA
328 COMBINING OGONEK
329 COMBINING VERTICAL LINE BELOW
32A COMBINING BRIDGE BELOW
32B COMBINING INVERTED DOUBLE ARCH BELOW
32C COMBINING CARON BELOW
32D COMBINING CIRCUMFLEX ACCENT BELOW
32E COMBINING BREVE BELOW
32F COMBINING INVERTED BREVE BELOW
330 COMBINING TILDE BELOW
331 COMBINING MACRON BELOW
332 COMBINING LOW LINE
333 COMBINING DOUBLE LOW LINE
334 COMBINING TILDE OVERLAY
335 COMBINING SHORT STROKE OVERLAY
336 COMBINING LONG STROKE OVERLAY
337 COMBINING SHORT SOLIDUS OVERLAY
338 COMBINING LONG SOLIDUS OVERLAY
339 COMBINING RIGHT HALF RING BELOW
33A COMBINING INVERTED BRIDGE BELOW
33B COMBINING SQUARE BELOW
33C COMBINING SEAGULL BELOW
33D COMBINING X ABOVE
33E COMBINING VERTICAL TILDE
33F COMBINING DOUBLE OVERLINE
340 COMBINING GRAVE TONE MARK
341 COMBINING ACUTE TONE MARK
342 COMBINING GREEK PERISPOMENI
343 COMBINING GREEK KORONIS
344 COMBINING GREEK DIALYTIKA TONOS
345 COMBINING GREEK YPOGEGRAMMENI
346 COMBINING BRIDGE ABOVE
347 COMBINING EQUALS SIGN BELOW
348 COMBINING DOUBLE VERTICAL LINE BELOW
349 COMBINING LEFT ANGLE BELOW
34A COMBINING NOT TILDE ABOVE
34B COMBINING HOMOTHETIC ABOVE
34C COMBINING ALMOST EQUAL TO ABOVE
34D COMBINING LEFT RIGHT ARROW BELOW
34E COMBINING UPWARDS ARROW BELOW
34F COMBINING GRAPHEME JOINER
350 COMBINING RIGHT ARROWHEAD ABOVE
351 COMBINING LEFT HALF RING ABOVE
352 COMBINING FERMATA
353 COMBINING X BELOW
354 COMBINING LEFT ARROWHEAD BELOW
355 COMBINING RIGHT ARROWHEAD BELOW
356 COMBINING RIGHT ARROWHEAD AND UP ARROWHEAD BELOW
357 COMBINING RIGHT HALF RING ABOVE
358 COMBINING DOT ABOVE RIGHT
359 COMBINING ASTERISK BELOW
35A COMBINING DOUBLE RING BELOW
35B COMBINING ZIGZAG ABOVE
35C COMBINING DOUBLE BREVE BELOW
35D COMBINING DOUBLE BREVE
35E COMBINING DOUBLE MACRON
35F COMBINING DOUBLE MACRON BELOW
360 COMBINING DOUBLE TILDE
361 COMBINING DOUBLE INVERTED BREVE
362 COMBINING DOUBLE RIGHTWARDS ARROW BELOW
363 COMBINING LATIN SMALL LETTER A
364 COMBINING LATIN SMALL LETTER E
365 COMBINING LATIN SMALL LETTER I
366 COMBINING LATIN SMALL LETTER O
367 COMBINING LATIN SMALL LETTER U
368 COMBINING LATIN SMALL LETTER C
369 COMBINING LATIN SMALL LETTER D
36A COMBINING LATIN SMALL LETTER H
36B COMBINING LATIN SMALL LETTER M
36C COMBINING LATIN SMALL LETTER R
36D COMBINING LATIN SMALL LETTER T
36E COMBINING LATIN SMALL LETTER V
36F COMBINING LATIN SMALL LETTER X
370 GREEK CAPITAL LETTER HETA
371 GREEK SMALL LETTER HETA
372 GREEK CAPITAL LETTER ARCHAIC SAMPI
373 GREEK SMALL LETTER ARCHAIC SAMPI
374 GREEK NUMERAL SIGN
375 GREEK LOWER NUMERAL SIGN
376 GREEK CAPITAL LETTER PAMPHYLIAN DIGAMMA
377 GREEK SMALL LETTER PAMPHYLIAN DIGAMMA
37A GREEK YPOGEGRAMMENI
37B GREEK SMALL REVERSED LUNATE SIGMA SYMBOL
37C GREEK SMALL DOTTED LUNATE SIGMA SYMBOL
37D GREEK SMALL REVERSED DOTTED LUNATE SIGMA SYMBOL
37E GREEK QUESTION MARK
37F GREEK CAPITAL LETTER YOT
384 GREEK TONOS
385 GREEK DIALYTIKA TONOS
386 GREEK CAPITAL LETTER ALPHA WITH TONOS
387 GREEK ANO TELEIA
388 GREEK CAPITAL LETTER EPSILON WITH TONOS
389 GREEK CAPITAL LETTER ETA WITH TONOS
38A GREEK CAPITAL LETTER IOTA WITH TONOS
38C GREEK CAPITAL LETTER OMICRON WITH TONOS
38E GREEK CAPITAL LETTER UPSILON WITH TONOS
38F GREEK CAPITAL LETTER OMEGA WITH TONOS
390 GREEK SMALL LETTER IOTA WITH DIALYTIKA AND TONOS
391 GREEK CAPITAL LETTER ALPHA
392 GREEK CAPITAL LETTER BETA
393 GREEK CAPITAL LETTER GAMMA
394 GREEK CAPITAL LETTER DELTA
395 GREEK CAPITAL LETTER EPSILON
396 GREEK CAPITAL LETTER ZETA
397 GREEK CAPITAL LETTER ETA
398 GREEK CAPITAL LETTER THETA
399 GREEK CAPITAL LETTER IOTA
39A GREEK CAPITAL LETTER KAPPA
39B GREEK CAPITAL LETTER LAMDA
39C GREEK CAPITAL LETTER MU
39D GREEK CAPITAL LETTER NU
39E GREEK CAPITAL LETTER XI
39F GREEK CAPITAL LETTER OMICRON
3A0 GREEK CAPITAL LETTER PI
3A1 GREEK CAPITAL LETTER RHO
3A3 GREEK CAPITAL LETTER SIGMA
3A4 GREEK CAPITAL LETTER TAU
3A5 GREEK CAPITAL LETTER UPSILON
3A6 GREEK CAPITAL LETTER PHI
3A7 GREEK CAPITAL LETTER CHI
3A8 GREEK CAPITAL LETTER PSI
3A9 GREEK CAPITAL LETTER OMEGA
3AA GREEK CAPITAL LETTER IOTA WITH DIALYTIKA
3AB GREEK CAPITAL LETTER UPSILON WITH DIALYTIKA
3AC GREEK SMALL LETTER ALPHA WITH TONOS
3AD GREEK SMALL LETTER EPSILON WITH TONOS
3AE GREEK SMALL LETTER ETA WITH TONOS
3AF GREEK SMALL LETTER IOTA WITH TONOS
3B0 GREEK SMALL LETTER UPSILON WITH DIALYTIKA AND TONOS
3B1 GREEK SMALL LETTER ALPHA
3B2 GREEK SMALL LETTER BETA
3B3 GREEK SMALL LETTER GAMMA
3B4 GREEK SMALL LETTER DELTA
3B5 GREEK SMALL LETTER EPSILON
3B6 GREEK SMALL LETTER ZETA
3B7 GREEK SMALL LETTER ETA
3B8 GREEK SMALL LETTER THETA
3B9 GREEK SMALL LETTER IOTA
3BA GREEK SMALL LETTER KAPPA
3BB GREEK SMALL LETTER LAMDA
3BC GREEK SMALL LETTER MU
3BD GREEK SMALL LETTER NU
3BE GREEK SMALL LETTER XI
3BF GREEK SMALL LETTER OMICRON
3C0 GREEK SMALL LETTER PI
3C1 GREEK SMALL LETTER RHO
3C2 GREEK SMALL LETTER FINAL SIGMA
3C3 GREEK SMALL LETTER SIGMA
3C4 GREEK SMALL LETTER TAU
3C5 GREEK SMALL LETTER UPSILON
3C6 GREEK SMALL LETTER PHI
3C7 GREEK SMALL LETTER CHI
3C8 GREEK SMALL LETTER PSI
3C9 GREEK SMALL LETTER OMEGA
3CA GREEK SMALL LETTER IOTA WITH DIALYTIKA
3CB GREEK SMALL LETTER UPSILON WITH DIALYTIKA
3CC GREEK SMALL LETTER OMICRON WITH TONOS
3CD GREEK SMALL LETTER UPSILON WITH TONOS
3CE GREEK SMALL LETTER OMEGA WITH TONOS
3CF GREEK CAPITAL KAI SYMBOL
3D0 GREEK BETA SYMBOL
3D1 GREEK THETA SYMBOL
3D2 GREEK UPSILON WITH HOOK SYMBOL
3D3 GREEK UPSILON WITH ACUTE AND HOOK SYMBOL
3D4 GREEK UPSILON WITH DIAERESIS AND HOOK SYMBOL
3D5 GREEK PHI SYMBOL
3D6 GREEK PI SYMBOL
3D7 GREEK KAI SYMBOL
3D8 GREEK LETTER ARCHAIC KOPPA
3D9 GREEK SMALL LETTER ARCHAIC KOPPA
3DA GREEK LETTER STIGMA
3DB GREEK SMALL LETTER STIGMA
3DC GREEK LETTER DIGAMMA
3DD GREEK SMALL LETTER DIGAMMA
3DE GREEK LETTER KOPPA
3DF GREEK SMALL LETTER KOPPA
3E0 GREEK LETTER SAMPI
3E1 GREEK SMALL LETTER SAMPI
3E2 COPTIC CAPITAL LETTER SHEI
3E3 COPTIC SMALL LETTER SHEI
3E4 COPTIC CAPITAL LETTER FEI
3E5 COPTIC SMALL LETTER FEI
3E6 COPTIC CAPITAL LETTER KHEI
3E7 COPTIC SMALL LETTER KHEI
3E8 COPTIC CAPITAL LETTER HORI
3E9 COPTIC SMALL LETTER HORI
3EA COPTIC CAPITAL LETTER GANGIA
3EB COPTIC SMALL LETTER GANGIA
3EC COPTIC CAPITAL LETTER SHIMA
3ED COPTIC SMALL LETTER SHIMA
3EE COPTIC CAPITAL LETTER DEI
3EF COPTIC SMALL LETTER DEI
3F0 GREEK KAPPA SYMBOL
3F1 GREEK RHO SYMBOL
3F2 GREEK LUNATE SIGMA SYMBOL
3F3 GREEK LETTER YOT
3F4 GREEK CAPITAL THETA SYMBOL
3F5 GREEK LUNATE EPSILON SYMBOL
3F6 GREEK REVERSED LUNATE EPSILON SYMBOL
3F7 GREEK CAPITAL LETTER SHO
3F8 GREEK SMALL LETTER SHO
3F9 GREEK CAPITAL LUNATE SIGMA SYMBOL
3FA GREEK CAPITAL LETTER SAN
3FB GREEK SMALL LETTER SAN
3FC GREEK RHO WITH STROKE SYMBOL
3FD GREEK CAPITAL REVERSED LUNATE SIGMA SYMBOL
3FE GREEK CAPITAL DOTTED LUNATE SIGMA SYMBOL
3FF GREEK CAPITAL REVERSED DOTTED LUNATE SIGMA SYMBOL
400 CYRILLIC CAPITAL LETTER IE WITH GRAVE
401 CYRILLIC CAPITAL LETTER IO
402 CYRILLIC CAPITAL LETTER DJE
403 CYRILLIC CAPITAL LETTER GJE
404 CYRILLIC CAPITAL LETTER UKRAINIAN IE
405 CYRILLIC CAPITAL LETTER DZE
406 CYRILLIC CAPITAL LETTER BYELORUSSIAN-UKRAINIAN I
407 CYRILLIC CAPITAL LETTER YI
408 CYRILLIC CAPITAL LETTER JE
409 CYRILLIC CAPITAL LETTER LJE
40A CYRILLIC CAPITAL LETTER NJE
40B CYRILLIC CAPITAL LETTER TSHE
40C CYRILLIC CAPITAL LETTER KJE
40D CYRILLIC CAPITAL LETTER I WITH GRAVE
40E CYRILLIC CAPITAL LETTER SHORT U
40F CYRILLIC CAPITAL LETTER DZHE
410 CYRILLIC CAPITAL LETTER A
411 CYRILLIC CAPITAL LETTER BE
412 CYRILLIC CAPITAL LETTER VE
413 CYRILLIC CAPITAL LETTER GHE
414 CYRILLIC CAPITAL LETTER DE
415 CYRILLIC CAPITAL LETTER IE
416 CYRILLIC CAPITAL LETTER ZHE
417 CYRILLIC CAPITAL LETTER ZE
418 CYRILLIC CAPITAL LETTER I
419 CYRILLIC CAPITAL LETTER SHORT I
41A CYRILLIC CAPITAL LETTER KA
41B CYRILLIC CAPITAL LETTER EL
41C CYRILLIC CAPITAL LETTER EM
41D CYRILLIC CAPITAL LETTER EN
41E CYRILLIC CAPITAL LETTER O
41F CYRILLIC CAPITAL LETTER PE
420 CYRILLIC CAPITAL LETTER ER
421 CYRILLIC CAPITAL LETTER ES
422 CYRILLIC CAPITAL LETTER TE
423 CYRILLIC CAPITAL LETTER U
424 CYRILLIC CAPITAL LETTER EF
425 CYRILLIC CAPITAL LETTER HA
426 CYRILLIC CAPITAL LETTER TSE
427 CYRILLIC CAPITAL LETTER CHE
428 CYRILLIC CAPITAL LETTER SHA
429 CYRILLIC CAPITAL LETTER SHCHA
42A CYRILLIC CAPITAL LETTER HARD SIGN
42B CYRILLIC CAPITAL LETTER YERU
42C CYRILLIC CAPITAL LETTER SOFT SIGN
42D CYRILLIC CAPITAL LETTER E
42E CYRILLIC CAPITAL LETTER YU
42F CYRILLIC CAPITAL LETTER YA
430 CYRILLIC SMALL LETTER A
431 CYRILLIC SMALL LETTER BE
432 CYRILLIC SMALL LETTER VE
433 CYRILLIC SMALL LETTER GHE
434 CYRILLIC SMALL LETTER DE
435 CYRILLIC SMALL LETTER IE
436 CYRILLIC SMALL LETTER ZHE
437 CYRILLIC SMALL LETTER ZE
438 CYRILLIC SMALL LETTER I
439 CYRILLIC SMALL LETTER SHORT I
43A CYRILLIC SMALL LETTER KA
43B CYRILLIC SMALL LETTER EL
43C CYRILLIC SMALL LETTER EM
43D CYRILLIC SMALL LETTER EN
43E CYRILLIC SMALL LETTER O
43F CYRILLIC SMALL LETTER PE
440 CYRILLIC SMALL LETTER ER
441 CYRILLIC SMALL LETTER ES
442 CYRILLIC SMALL LETTER TE
443 CYRILLIC SMALL LETTER U
444 CYRILLIC SMALL LETTER EF
445 CYRILLIC SMALL LETTER HA
446 CYRILLIC SMALL LETTER TSE
447 CYRILLIC SMALL LETTER CHE
448 CYRILLIC SMALL LETTER SHA
449 CYRILLIC SMALL LETTER SHCHA
44A CYRILLIC SMALL LETTER HARD SIGN
44B CYRILLIC SMALL LETTER YERU
44C CYRILLIC SMALL LETTER SOFT SIGN
44D CYRILLIC SMALL LETTER E
44E CYRILLIC SMALL LETTER YU
44F CYRILLIC SMALL LETTER YA
450 CYRILLIC SMALL LETTER IE WITH GRAVE
451 CYRILLIC SMALL LETTER IO
452 CYRILLIC SMALL LETTER DJE
453 CYRILLIC SMALL LETTER GJE
454 CYRILLIC SMALL LETTER UKRAINIAN IE
455 CYRILLIC SMALL LETTER DZE
456 CYRILLIC SMALL LETTER BYELORUSSIAN-UKRAINIAN I
457 CYRILLIC SMALL LETTER YI
458 CYRILLIC SMALL LETTER JE
459 CYRILLIC SMALL LETTER LJE
45A CYRILLIC SMALL LETTER NJE
45B CYRILLIC SMALL LETTER TSHE
45C CYRILLIC SMALL LETTER KJE
45D CYRILLIC SMALL LETTER I WITH GRAVE
45E CYRILLIC SMALL LETTER SHORT U
45F CYRILLIC SMALL LETTER DZHE
5D0 HEBREW LETTER ALEF
5D1 HEBREW LETTER BET
5D2 HEBREW LETTER GIMEL
5D3 HEBREW LETTER DALET
5D4 HEBREW LETTER HE
5D5 HEBREW LETTER VAV
5D6 HEBREW LETTER ZAYIN
5D7 HEBREW LETTER HET
5D8 HEBREW LETTER TET
5D9 HEBREW LETTER YOD
5DA HEBREW LETTER FINAL KAF
5DB HEBREW LETTER KAF
5DC HEBREW LETTER LAMED
5DD HEBREW LETTER FINAL MEM
5DE HEBREW LETTER MEM
5DF HEBREW LETTER FINAL NUN
5E0 HEBREW LETTER NUN
5E1 HEBREW LETTER SAMEKH
5E2 HEBREW LETTER AYIN
5E3 HEBREW LETTER FINAL PE
5E4 HEBREW LETTER PE
5E5 HEBREW LETTER FINAL TSADI
5E6 HEBREW LETTER TSADI
5E7 HEBREW LETTER QOF
5E8 HEBREW LETTER RESH
5E9 HEBREW LETTER SHIN
5EA HEBREW LETTER TAV
660 ARABIC-INDIC DIGIT ZERO
661 ARABIC-INDIC DIGIT ONE
662 ARABIC-INDIC DIGIT TWO
663 ARABIC-INDIC DIGIT THREE
664 ARABIC-INDIC DIGIT FOUR
665 ARABIC-INDIC DIGIT FIVE
666 ARABIC-INDIC DIGIT SIX
667 ARABIC-INDIC DIGIT SEVEN
668 ARABIC-INDIC DIGIT EIGHT
669 ARABIC-INDIC DIGIT NINE
2000 EN QUAD
2001 EM QUAD
2002 EN SPACE
2003 EM SPACE
2004 THREE-PER-EM SPACE
2005 FOUR-PER-EM SPACE
2006 SIX-PER-EM SPACE
2007 FIGURE SPACE
2008 PUNCTUATION SPACE
2009 THIN SPACE
200A HAIR SPACE
200B ZERO WIDTH SPACE
200C ZERO WIDTH NON-JOINER
200D ZERO WIDTH JOINER
200E LEFT-TO-RIGHT MARK
200F RIGHT-TO-LEFT MARK
2010 HYPHEN
2011 NON-BREAKING HYPHEN
2012 FIGURE DASH
2013 EN DASH
2014 EM DASH
2015 HORIZONTAL BAR
2016 DOUBLE VERTICAL LINE
2017 DOUBLE LOW LINE
2018 LEFT SINGLE QUOTATION MARK
2019 RIGHT SINGLE QUOTATION MARK
201A SINGLE LOW-9 QUOTATION MARK
201B SINGLE HIGH-REVERSED-9 QUOTATION MARK
201C LEFT DOUBLE QUOTATION MARK
201D RIGHT DOUBLE QUOTATION MARK
201E DOUBLE LOW-9 QUOTATION MARK
201F DOUBLE HIGH-REVERSED-9 QUOTATION MARK
2020 DAGGER
2021 DOUBLE DAGGER
2022 BULLET
2023 TRIANGULAR BULLET
2024 ONE DOT LEADER
2025 TWO DOT LEADER
2026 HORIZONTAL ELLIPSIS
2027 HYPHENATION POINT
2028 LINE SEPARATOR
2029 PARAGRAPH SEPARATOR
202A LEFT-TO-RIGHT EMBEDDING
202B RIGHT-TO-LEFT EMBEDDING
202C POP DIRECTIONAL FORMATTING
202D LEFT-TO-RIGHT OVERRIDE
202E RIGHT-TO-LEFT OVERRIDE
202F NARROW NO-BREAK SPACE
2030 PER MILLE SIGN
2031 PER TEN THOUSAND SIGN
2032 PRIME
2033 DOUBLE PRIME
2034 TRIPLE PRIME
2035 REVERSED PRIME
2036 REVERSED DOUBLE PRIME
2037 REVERSED TRIPLE PRIME
2038 CARET
2039 SINGLE LEFT-POINTING ANGLE QUOTATION MARK
203A SINGLE RIGHT-POINTING ANGLE QUOTATION MARK
203B REFERENCE MARK
203C DOUBLE EXCLAMATION MARK
203D INTERROBANG
203E OVERLINE
203F UNDERTIE
2040 CHARACTER TIE
2041 CARET INSERTION POINT
2042 ASTERISM
2043 HYPHEN BULLET
2044 FRACTION SLASH
2045 LEFT SQUARE BRACKET WITH QUILL
2046 RIGHT SQUARE BRACKET WITH QUILL
2047 DOUBLE QUESTION MARK
2048 QUESTION EXCLAMATION MARK
2049 EXCLAMATION QUESTION MARK
204A TIRONIAN SIGN ET
204B REVERSED PILCROW SIGN
204C BLACK LEFTWARDS BULLET
204D BLACK RIGHTWARDS BULLET
204E LOW ASTERISK
204F REVERSED SEMICOLON
2050 CLOSE UP
2051 TWO ASTERISKS ALIGNED VERTICALLY
2052 COMMERCIAL MINUS SIGN
2053 SWUNG DASH
2054 INVERTED UNDERTIE
2055 FLOWER PUNCTUATION MARK
2056 THREE DOT PUNCTUATION
2057 QUADRUPLE PRIME
2058 FOUR DOT PUNCTUATION
2059 FIVE DOT PUNCTUATION
205A TWO DOT PUNCTUATION
205B FOUR DOT MARK
205C DOTTED CROSS
205D TRICOLON
205E VERTICAL FOUR DOTS
205F MEDIUM MATHEMATICAL SPACE
2060 WORD JOINER
2061 FUNCTION APPLICATION
2062 INVISIBLE TIMES
2063 INVISIBLE SEPARATOR
2064 INVISIBLE PLUS
2066 LEFT-TO-RIGHT ISOLATE
2067 RIGHT-TO-LEFT ISOLATE
2068 FIRST STRONG ISOLATE
2069 POP DIRECTIONAL ISOLATE
206A INHIBIT SYMMETRIC SWAPPING
206B ACTIVATE SYMMETRIC SWAPPING
206C INHIBIT ARABIC FORM SHAPING
206D ACTIVATE ARABIC FORM SHAPING
206E NATIONAL DIGIT SHAPES
206F NOMINAL DIGIT SHAPES
2070 SUPERSCRIPT ZERO
2071 SUPERSCRIPT LATIN SMALL LETTER I
2074 SUPERSCRIPT FOUR
2075 SUPERSCRIPT FIVE
2076 SUPERSCRIPT SIX
2077 SUPERSCRIPT SEVEN
2078 SUPERSCRIPT EIGHT
2079 SUPERSCRIPT NINE
207A SUPERSCRIPT PLUS SIGN
207B SUPERSCRIPT MINUS
207C SUPERSCRIPT EQUALS SIGN
207D SUPERSCRIPT LEFT PARENTHESIS
207E SUPERSCRIPT RIGHT PARENTHESIS
207F SUPERSCRIPT LATIN SMALL LETTER N
2080 SUBSCRIPT ZERO
2081 SUBSCRIPT ONE
2082 SUBSCRIPT TWO
2083 SUBSCRIPT THREE
2084 SUBSCRIPT FOUR
2085 SUBSCRIPT FIVE
2086 SUBSCRIPT SIX
2087 SUBSCRIPT SEVEN
2088 SUBSCRIPT EIGHT
2089 SUBSCRIPT NINE
208A SUBSCRIPT PLUS SIGN
208B SUBSCRIPT MINUS
208C SUBSCRIPT EQUALS SIGN
208D SUBSCRIPT LEFT PARENTHESIS
208E SUBSCRIPT RIGHT PARENTHESIS
2090 LATIN SUBSCRIPT SMALL LETTER A
2091 LATIN SUBSCRIPT SMALL LETTER E
2092 LATIN SUBSCRIPT SMALL LETTER O
2093 LATIN SUBSCRIPT SMALL LETTER X
2094 LATIN SUBSCRIPT SMALL LETTER SCHWA
2095 LATIN SUBSCRIPT SMALL LETTER H
2096 LATIN SUBSCRIPT SMALL LETTER K
2097 LATIN SUBSCRIPT SMALL LETTER L
2098 LATIN SUBSCRIPT SMALL LETTER M
2099 LATIN SUBSCRIPT SMALL LETTER N
209A LATIN SUBSCRIPT SMALL LETTER P
209B LATIN SUBSCRIPT SMALL LETTER S
209C LATIN SUBSCRIPT SMALL LETTER T
20A0 EURO-CURRENCY SIGN
20A1 COLON SIGN
20A2 CRUZEIRO SIGN
20A3 FRENCH FRANC SIGN
20A4 LIRA SIGN
20A5 MILL SIGN
20A6 NAIRA SIGN
20A7 PESETA SIGN
20A8 RUPEE SIGN
20A9 WON SIGN
20AA NEW SHEQEL SIGN
20AB DONG SIGN
20AC EURO SIGN
20AD KIP SIGN
20AE TUGRIK SIGN
20AF DRACHMA SIGN
20B0 GERMAN PENNY SIGN
20B1 PESO SIGN
20B2 GUARANI SIGN
20B3 AUSTRAL SIGN
20B4 HRYVNIA SIGN
20B5 CEDI SIGN
20B6 LIVRE TOURNOIS SIGN
20B7 SPESMILO SIGN
20B8 TENGE SIGN
20B9 INDIAN RUPEE SIGN
20BA TURKISH LIRA SIGN
20BB NORDIC MARK SIGN
20BC MANAT SIGN
20BD RUBLE SIGN
20BE LARI SIGN
20BF BITCOIN SIGN
2100 ACCOUNT OF
2101 ADDRESSED TO THE SUBJECT
2102 DOUBLE-STRUCK CAPITAL C
2103 DEGREE CELSIUS
2104 CENTRE LINE SYMBOL
2105 CARE OF
2106 CADA UNA
2107 EULER CONSTANT
2108 SCRUPLE
2109 DEGREE FAHRENHEIT
210A SCRIPT SMALL G
210B SCRIPT CAPITAL H
210C BLACK-LETTER CAPITAL H
210D DOUBLE-STRUCK CAPITAL H
210E PLANCK CONSTANT
210F PLANCK CONSTANT OVER TWO PI
2110 SCRIPT CAPITAL I
2111 BLACK-LETTER CAPITAL I
2112 SCRIPT CAPITAL L
2113 SCRIPT SMALL L
2114 L B BAR SYMBOL
2115 DOUBLE-STRUCK CAPITAL N
2116 NUMERO SIGN
2117 SOUND RECORDING COPYRIGHT
2118 SCRIPT CAPITAL P
2119 DOUBLE-STRUCK CAPITAL P
211A DOUBLE-STRUCK CAPITAL Q
211B SCRIPT CAPITAL R
211C BLACK-LETTER CAPITAL R
211D DOUBLE-STRUCK CAPITAL R
211E PRESCRIPTION TAKE
211F RESPONSE
2120 SERVICE MARK
2121 TELEPHONE SIGN
2122 TRADE MARK SIGN
2123 VERSICLE
2124 DOUBLE-STRUCK CAPITAL Z
2125 OUNCE SIGN
2126 OHM SIGN
2127 INVERTED OHM SIGN
2128 BLACK-LETTER CAPITAL Z
2129 TURNED GREEK SMALL LETTER IOTA
212A KELVIN SIGN
212B ANGSTROM SIGN
212C SCRIPT CAPITAL B
212D BLACK-LETTER CAPITAL C
212E ESTIMATED SYMBOL
212F SCRIPT SMALL E
2130 SCRIPT CAPITAL E
2131 SCRIPT CAPITAL F
2132 TURNED CAPITAL F
2133 SCRIPT CAPITAL M
2134 SCRIPT SMALL O
2135 ALEF SYMBOL
2136 BET SYMBOL
2137 GIMEL SYMBOL
2138 DALET SYMBOL
2139 INFORMATION SOURCE
213A ROTATED CAPITAL Q
213B FACSIMILE SIGN
213C DOUBLE-STRUCK SMALL PI
213D DOUBLE-STRUCK SMALL GAMMA
213E DOUBLE-STRUCK CAPITAL GAMMA
213F DOUBLE-STRUCK CAPITAL PI
2140 DOUBLE-STRUCK N-ARY SUMMATION
2141 TURNED SANS-SERIF CAPITAL G
2142 TURNED SANS-SERIF CAPITAL L
2143 REVERSED SANS-SERIF CAPITAL L
2144 TURNED SANS-SERIF CAPITAL Y
2145 DOUBLE-STRUCK ITALIC CAPITAL D
2146 DOUBLE-STRUCK ITALIC SMALL D
2147 DOUBLE-STRUCK ITALIC SMALL E
2148 DOUBLE-STRUCK ITALIC SMALL I
2149 DOUBLE-STRUCK ITALIC SMALL J
214A PROPERTY LINE
214B TURNED AMPERSAND
214C PER SIGN
214D AKTIESELSKAB
214E TURNED SMALL F
214F SYMBOL FOR SAMARITAN SOURCE
2150 VULGAR FRACTION ONE SEVENTH
2151 VULGAR FRACTION ONE NINTH
2152 VULGAR FRACTION ONE TENTH
2153 VULGAR FRACTION ONE THIRD
2154 VULGAR FRACTION TWO THIRDS
2155 VULGAR FRACTION ONE FIFTH
2156 VULGAR FRACTION TWO FIFTHS
2157 VULGAR FRACTION THREE FIFTHS
2158 VULGAR FRACTION FOUR FIFTHS
2159 VULGAR FRACTION ONE SIXTH
215A VULGAR FRACTION FIVE SIXTHS
215B VULGAR FRACTION ONE EIGHTH
215C VULGAR FRACTION THREE EIGHTHS
215D VULGAR FRACTION FIVE EIGHTHS
215E VULGAR FRACTION SEVEN EIGHTHS
215F FRACTION NUMERATOR ONE
2160 ROMAN NUMERAL ONE
2161 ROMAN NUMERAL TWO
2162 ROMAN NUMERAL THREE
2163 ROMAN NUMERAL FOUR
2164 ROMAN NUMERAL FIVE
2165 ROMAN NUMERAL SIX
2166 ROMAN NUMERAL SEVEN
2167 ROMAN NUMERAL EIGHT
2168 ROMAN NUMERAL NINE
2169 ROMAN NUMERAL TEN
216A ROMAN NUMERAL ELEVEN
216B ROMAN NUMERAL TWELVE
216C ROMAN NUMERAL FIFTY
216D ROMAN NUMERAL ONE HUNDRED
216E ROMAN NUMERAL FIVE HUNDRED
216F ROMAN NUMERAL ONE THOUSAND
2170 SMALL ROMAN NUMERAL ONE
2171 SMALL ROMAN NUMERAL TWO
2172 SMALL ROMAN NUMERAL THREE
2173 SMALL ROMAN NUMERAL FOUR
2174 SMALL ROMAN NUMERAL FIVE
2175 SMALL ROMAN NUMERAL SIX
2176 SMALL ROMAN NUMERAL SEVEN
2177 SMALL ROMAN NUMERAL EIGHT
2178 SMALL ROMAN NUMERAL NINE
2179 SMALL ROMAN NUMERAL TEN
217A SMALL ROMAN NUMERAL ELEVEN
217B SMALL ROMAN NUMERAL TWELVE
217C SMALL ROMAN NUMERAL FIFTY
217D SMALL ROMAN NUMERAL ONE HUNDRED
217E SMALL ROMAN NUMERAL FIVE HUNDRED
217F SMALL ROMAN NUMERAL ONE THOUSAND
2180 ROMAN NUMERAL ONE THOUSAND C D
2181 ROMAN NUMERAL FIVE THOUSAND
2182 ROMAN NUMERAL TEN THOUSAND
2183 ROMAN NUMERAL REVERSED ONE HUNDRED
2184 LATIN SMALL LETTER REVERSED C
2185 ROMAN NUMERAL SIX LATE FORM
2186 ROMAN NUMERAL FIFTY EARLY FORM
2187 ROMAN NUMERAL FIFTY THOUSAND
2188 ROMAN NUMERAL ONE HUNDRED THOUSAND
2189 VULGAR FRACTION ZERO THIRDS
218A TURNED DIGIT TWO
218B TURNED DIGIT THREE
2190 LEFTWARDS ARROW
2191 UPWARDS ARROW
2192 RIGHTWARDS ARROW
2193 DOWNWARDS ARROW
2194 LEFT RIGHT ARROW
2195 UP DOWN ARROW
2196 NORTH WEST ARROW
2197 NORTH EAST ARROW
2198 SOUTH EAST ARROW
2199 SOUTH WEST ARROW
219A LEFTWARDS ARROW WITH STROKE
219B RIGHTWARDS ARROW WITH STROKE
219C LEFTWARDS WAVE ARROW
219D RIGHTWARDS WAVE ARROW
219E LEFTWARDS TWO HEADED ARROW
219F UPWARDS TWO HEADED ARROW
21A0 RIGHTWARDS TWO HEADED ARROW
21A1 DOWNWARDS TWO HEADED ARROW
21A2 LEFTWARDS ARROW WITH TAIL
21A3 RIGHTWARDS ARROW WITH TAIL
21A4 LEFTWARDS ARROW FROM BAR
21A5 UPWARDS ARROW FROM BAR
21A6 RIGHTWARDS ARROW FROM BAR
21A7 DOWNWARDS ARROW FROM BAR
21A8 UP DOWN ARROW WITH BASE
21A9 LEFTWARDS ARROW WITH HOOK
21AA RIGHTWARDS ARROW WITH HOOK
21AB LEFTWARDS ARROW WITH LOOP
21AC RIGHTWARDS ARROW WITH LOOP
21AD LEFT RIGHT WAVE ARROW
21AE LEFT RIGHT ARROW WITH STROKE
21AF DOWNWARDS ZIGZAG ARROW
21B0 UPWARDS ARROW WITH TIP LEFTWARDS
21B1 UPWARDS ARROW WITH TIP RIGHTWARDS
21B2 DOWNWARDS ARROW WITH TIP LEFTWARDS
21B3 DOWNWARDS ARROW WITH TIP RIGHTWARDS
21B4 RIGHTWARDS ARROW WITH CORNER DOWNWARDS
21B5 DOWNWARDS ARROW WITH CORNER LEFTWARDS
21B6 ANTICLOCKWISE TOP SEMICIRCLE ARROW
21B7 CLOCKWISE TOP SEMICIRCLE ARROW
21B8 NORTH WEST ARROW TO LONG BAR
21B9 LEFTWARDS ARROW TO BAR OVER RIGHTWARDS ARROW TO BAR
21BA ANTICLOCKWISE OPEN CIRCLE ARROW
21BB CLOCKWISE OPEN CIRCLE ARROW
21BC LEFTWARDS HARPOON WITH BARB UPWARDS
21BD LEFTWARDS HARPOON WITH BARB DOWNWARDS
21BE UPWARDS HARPOON WITH BARB RIGHTWARDS
21BF UPWARDS HARPOON WITH BARB LEFTWARDS
21C0 RIGHTWARDS HARPOON WITH BARB UPWARDS
21C1 RIGHTWARDS HARPOON WITH BARB DOWNWARDS
21C2 DOWNWARDS HARPOON WITH BARB RIGHTWARDS
21C3 DOWNWARDS HARPOON WITH BARB LEFTWARDS
21C4 RIGHTWARDS ARROW OVER LEFTWARDS ARROW
21C5 UPWARDS ARROW LEFTWARDS OF DOWNWARDS ARROW
21C6 LEFTWARDS ARROW OVER RIGHTWARDS ARROW
21C7 LEFTWARDS PAIRED ARROWS
21C8 UPWARDS PAIRED ARROWS
21C9 RIGHTWARDS PAIRED ARROWS
21CA DOWNWARDS PAIRED ARROWS
21CB LEFTWARDS HARPOON OVER RIGHTWARDS HARPOON
21CC RIGHTWARDS HARPOON OVER LEFTWARDS HARPOON
21CD LEFTWARDS DOUBLE ARROW WITH STROKE
21CE LEFT RIGHT DOUBLE ARROW WITH STROKE
21CF RIGHTWARDS DOUBLE ARROW WITH STROKE
21D0 LEFTWARDS DOUBLE ARROW
21D1 UPWARDS DOUBLE ARROW
21D2 RIGHTWARDS DOUBLE ARROW
21D3 DOWNWARDS DOUBLE ARROW
21D4 LEFT RIGHT DOUBLE ARROW
21D5 UP DOWN DOUBLE ARROW
21D6 NORTH WEST DOUBLE ARROW
21D7 NORTH EAST DOUBLE ARROW
21D8 SOUTH EAST DOUBLE ARROW
21D9 SOUTH WEST DOUBLE ARROW
21DA LEFTWARDS TRIPLE ARROW
21DB RIGHTWARDS TRIPLE ARROW
21DC LEFTWARDS SQUIGGLE ARROW
21DD RIGHTWARDS SQUIGGLE ARROW
21DE UPWARDS ARROW WITH DOUBLE STROKE
21DF DOWNWARDS ARROW WITH DOUBLE STROKE
21E0 LEFTWARDS DASHED ARROW
21E1 UPWARDS DASHED ARROW
21E2 RIGHTWARDS DASHED ARROW
21E3 DOWNWARDS DASHED ARROW
21E4 LEFTWARDS ARROW TO BAR
21E5 RIGHTWARDS ARROW TO BAR
21E6 LEFTWARDS WHITE ARROW
21E7 UPWARDS WHITE ARROW
21E8 RIGHTWARDS WHITE ARROW
21E9 DOWNWARDS WHITE ARROW
21EA UPWARDS WHITE ARROW FROM BAR
21EB UPWARDS WHITE ARROW ON PEDESTAL
21EC UPWARDS WHITE ARROW ON PEDESTAL WITH HORIZONTAL BAR
21ED UPWARDS WHITE ARROW ON PEDESTAL WITH VERTICAL BAR
21EE UPWARDS WHITE DOUBLE ARROW
21EF UPWARDS WHITE DOUBLE ARROW ON PEDESTAL
21F0 RIGHTWARDS WHITE ARROW FROM WALL
21F1 NORTH WEST ARROW TO CORNER
21F2 SOUTH EAST ARROW TO CORNER
21F3 UP DOWN WHITE ARROW
21F4 RIGHT ARROW WITH SMALL CIRCLE
21F5 DOWNWARDS ARROW LEFTWARDS OF UPWARDS ARROW
21F6 THREE RIGHTWARDS ARROWS
21F7 LEFTWARDS ARROW WITH VERTICAL STROKE
21F8 RIGHTWARDS ARROW WITH VERTICAL STROKE
21F9 LEFT RIGHT ARROW WITH VERTICAL STROKE
21FA LEFTWARDS ARROW WITH DOUBLE VERTICAL STROKE
21FB RIGHTWARDS ARROW WITH DOUBLE VERTICAL STROKE
21FC LEFT RIGHT ARROW WITH DOUBLE VERTICAL STROKE
21FD LEFTWARDS OPEN-HEADED ARROW
21FE RIGHTWARDS OPEN-HEADED ARROW
21FF LEFT RIGHT OPEN-HEADED ARROW
2200 FOR ALL
2201 COMPLEMENT
2202 PARTIAL DIFFERENTIAL
2203 THERE EXISTS
2204 THERE DOES NOT EXIST
2205 EMPTY SET
2206 INCREMENT
2207 NABLA
2208 ELEMENT OF
2209 NOT AN ELEMENT OF
220A SMALL ELEMENT OF
220B CONTAINS AS MEMBER
220C DOES NOT CONTAIN AS MEMBER
220D SMALL CONTAINS AS MEMBER
220E END OF PROOF
220F N-ARY PRODUCT
2210 N-ARY COPRODUCT
2211 N-ARY SUMMATION
2212 MINUS SIGN
2213 MINUS-OR-PLUS SIGN
2214 DOT PLUS
2215 DIVISION SLASH
2216 SET MINUS
2217 ASTERISK OPERATOR
2218 RING OPERATOR
2219 BULLET OPERATOR
221A SQUARE ROOT
221B CUBE ROOT
221C FOURTH ROOT
221D PROPORTIONAL TO
221E INFINITY
221F RIGHT ANGLE
2220 ANGLE
2221 MEASURED ANGLE
2222 SPHERICAL ANGLE
2223 DIVIDES
2224 DOES NOT DIVIDE
2225 PARALLEL TO
2226 NOT PARALLEL TO
2227 LOGICAL AND
2228 LOGICAL OR
2229 INTERSECTION
222A UNION
222B INTEGRAL
222C DOUBLE INTEGRAL
222D TRIPLE INTEGRAL
222E CONTOUR INTEGRAL
222F SURFACE INTEGRAL
2230 VOLUME INTEGRAL
2231 CLOCKWISE INTEGRAL
2232 CLOCKWISE CONTOUR INTEGRAL
2233 ANTICLOCKWISE CONTOUR INTEGRAL
2234 THEREFORE
2235 BECAUSE
2236 RATIO
2237 PROPORTION
2238 DOT MINUS
2239 EXCESS
223A GEOMETRIC PROPORTION
223B HOMOTHETIC
223C TILDE OPERATOR
223D REVERSED TILDE
223E INVERTED LAZY S
223F SINE WAVE
2240 WREATH PRODUCT
2241 NOT TILDE
2242 MINUS TILDE
2243 ASYMPTOTICALLY EQUAL TO
2244 NOT ASYMPTOTICALLY EQUAL TO
2245 APPROXIMATELY EQUAL TO
2246 APPROXIMATELY BUT NOT ACTUALLY EQUAL TO
2247 NEITHER APPROXIMATELY NOR ACTUALLY EQUAL TO
2248 ALMOST EQUAL TO
2249 NOT ALMOST EQUAL TO
224A ALMOST EQUAL OR EQUAL TO
224B TRIPLE TILDE
224C ALL EQUAL TO
224D EQUIVALENT TO
224E GEOMETRICALLY EQUIVALENT TO
224F DIFFERENCE BETWEEN
2250 APPROACHES THE LIMIT
2251 GEOMETRICALLY EQUAL TO
2252 APPROXIMATELY EQUAL TO OR THE IMAGE OF
2253 IMAGE OF OR APPROXIMATELY EQUAL TO
2254 COLON EQUALS
2255 EQUALS COLON
2256 RING IN EQUAL TO
2257 RING EQUAL TO
2258 CORRESPONDS TO
2259 ESTIMATES
225A EQUIANGULAR TO
225B STAR EQUALS
225C DELTA EQUAL TO
225D EQUAL TO BY DEFINITION
225E MEASURED BY
225F QUESTIONED EQUAL TO
2260 NOT EQUAL TO
2261 IDENTICAL TO
2262 NOT IDENTICAL TO
2263 STRICTLY EQUIVALENT TO
2264 LESS-THAN OR EQUAL TO
2265 GREATER-THAN OR EQUAL TO
2266 LESS-THAN OVER EQUAL TO
2267 GREATER-THAN OVER EQUAL TO
2268 LESS-THAN BUT NOT EQUAL TO
2269 GREATER-THAN BUT NOT EQUAL TO
226A MUCH LESS-THAN
226B MUCH GREATER-THAN
226C BETWEEN
226D NOT EQUIVALENT TO
226E NOT LESS-THAN
226F NOT GREATER-THAN
2270 NEITHER LESS-THAN NOR EQUAL TO
2271 NEITHER GREATER-THAN NOR EQUAL TO
2272 LESS-THAN OR EQUIVALENT TO
2273 GREATER-THAN OR EQUIVALENT TO
2274 NEITHER LESS-THAN NOR EQUIVALENT TO
2275 NEITHER GREATER-THAN NOR EQUIVALENT TO
2276 LESS-THAN OR GREATER-THAN
2277 GREATER-THAN OR LESS-THAN
2278 NEITHER LESS-THAN NOR GREATER-THAN
2279 NEITHER GREATER-THAN NOR LESS-THAN
227A PRECEDES
227B SUCCEEDS
227C PRECEDES OR EQUAL TO
227D SUCCEEDS OR EQUAL TO
227E PRECEDES OR EQUIVALENT TO
227F SUCCEEDS OR EQUIVALENT TO
2280 DOES NOT PRECEDE
2281 DOES NOT SUCCEED
2282 SUBSET OF
2283 SUPERSET OF
2284 NOT A SUBSET OF
2285 NOT A SUPERSET OF
2286 SUBSET OF OR EQUAL TO
2287 SUPERSET OF OR EQUAL TO
2288 NEITHER A SUBSET OF NOR EQUAL TO
2289 NEITHER A SUPERSET OF NOR EQUAL TO
228A SUBSET OF WITH NOT EQUAL TO
228B SUPERSET OF WITH NOT EQUAL TO
228C MULTISET
228D MULTISET MULTIPLICATION
228E MULTISET UNION
228F SQUARE IMAGE OF
2290 SQUARE ORIGINAL OF
2291 SQUARE IMAGE OF OR EQUAL TO
2292 SQUARE ORIGINAL OF OR EQUAL TO
2293 SQUARE CAP
2294 SQUARE CUP
2295 CIRCLED PLUS
2296 CIRCLED MINUS
2297 CIRCLED TIMES
2298 CIRCLED DIVISION SLASH
2299 CIRCLED DOT OPERATOR
229A CIRCLED RING OPERATOR
229B CIRCLED ASTERISK OPERATOR
229C CIRCLED EQUALS
229D CIRCLED DASH
229E SQUARED PLUS
229F SQUARED MINUS
22A0 SQUARED TIMES
22A1 SQUARED DOT OPERATOR
22A2 RIGHT TACK
22A3 LEFT TACK
22A4 DOWN TACK
22A5 UP TACK
22A6 ASSERTION
22A7 MODELS
22A8 TRUE
22A9 FORCES
22AA TRIPLE VERTICAL BAR RIGHT TURNSTILE
22AB DOUBLE VERTICAL BAR DOUBLE RIGHT TURNSTILE
22AC DOES NOT PROVE
22AD NOT TRUE
22AE DOES NOT FORCE
22AF NEGATED DOUBLE VERTICAL BAR DOUBLE RIGHT TURNSTILE
22B0 PRECEDES UNDER RELATION
22B1 SUCCEEDS UNDER RELATION
22B2 NORMAL SUBGROUP OF
22B3 CONTAINS AS NORMAL SUBGROUP
22B4 NORMAL SUBGROUP OF OR EQUAL TO
22B5 CONTAINS AS NORMAL SUBGROUP OR EQUAL TO
22B6 ORIGINAL OF
22B7 IMAGE OF
22B8 MULTIMAP
22B9 HERMITIAN CONJUGATE MATRIX
22BA INTERCALATE
22BB XOR
22BC NAND
22BD NOR
22BE RIGHT ANGLE WITH ARC
22BF RIGHT TRIANGLE
22C0 N-ARY LOGICAL AND
22C1 N-ARY LOGICAL OR
22C2 N-ARY INTERSECTION
22C3 N-ARY UNION
22C4 DIAMOND OPERATOR
22C5 DOT OPERATOR
22C6 STAR OPERATOR
22C7 DIVISION TIMES
22C8 BOWTIE
22C9 LEFT NORMAL FACTOR SEMIDIRECT PRODUCT
22CA RIGHT NORMAL FACTOR SEMIDIRECT PRODUCT
22CB LEFT SEMIDIRECT PRODUCT
22CC RIGHT SEMIDIRECT PRODUCT
22CD REVERSED TILDE EQUALS
22CE CURLY LOGICAL OR
22CF CURLY LOGICAL AND
22D0 DOUBLE SUBSET
22D1 DOUBLE SUPERSET
22D2 DOUBLE INTERSECTION
22D3 DOUBLE UNION
22D4 PITCHFORK
22D5 EQUAL AND PARALLEL TO
22D6 LESS-THAN WITH DOT
22D7 GREATER-THAN WITH DOT
22D8 VERY MUCH LESS-THAN
22D9 VERY MUCH GREATER-THAN
22DA LESS-THAN EQUAL TO OR GREATER-THAN
22DB GREATER-THAN EQUAL TO OR LESS-THAN
22DC EQUAL TO OR LESS-THAN
22DD EQUAL TO OR GREATER-THAN
22DE EQUAL TO OR PRECEDES
22DF EQUAL TO OR SUCCEEDS
22E0 DOES NOT PRECEDE OR EQUAL
22E1 DOES NOT SUCCEED OR EQUAL
22E2 NOT SQUARE IMAGE OF OR EQUAL TO
22E3 NOT SQUARE ORIGINAL OF OR EQUAL TO
22E4 SQUARE IMAGE OF OR NOT EQUAL TO
22E5 SQUARE ORIGINAL OF OR NOT EQUAL TO
22E6 LESS-THAN BUT NOT EQUIVALENT TO
22E7 GREATER-THAN BUT NOT EQUIVALENT TO
22E8 PRECEDES BUT NOT EQUIVALENT TO
22E9 SUCCEEDS BUT NOT EQUIVALENT TO
22EA NOT NORMAL SUBGROUP OF
22EB DOES NOT CONTAIN AS NORMAL SUBGROUP
22EC NOT NORMAL SUBGROUP OF OR EQUAL TO
22ED DOES NOT CONTAIN AS NORMAL SUBGROUP OR EQUAL
22EE VERTICAL ELLIPSIS
22EF MIDLINE HORIZONTAL ELLIPSIS
22F0 UP RIGHT DIAGONAL ELLIPSIS
22F1 DOWN RIGHT DIAGONAL ELLIPSIS
22F2 ELEMENT OF WITH LONG HORIZONTAL STROKE
22F3 ELEMENT OF WITH VERTICAL BAR AT END OF HORIZONTAL STROKE
22F4 SMALL ELEMENT OF WITH VERTICAL BAR AT END OF HORIZONTAL STROKE
22F5 ELEMENT OF WITH DOT ABOVE
22F6 ELEMENT OF WITH OVERBAR
22F7 SMALL ELEMENT OF WITH OVERBAR
22F8 ELEMENT OF WITH UNDERBAR
22F9 ELEMENT OF WITH TWO HORIZONTAL STROKES
22FA CONTAINS WITH LONG HORIZONTAL STROKE
22FB CONTAINS WITH VERTICAL BAR AT END OF HORIZONTAL STROKE
22FC SMALL CONTAINS WITH VERTICAL BAR AT END OF HORIZONTAL STROKE
22FD CONTAINS WITH OVERBAR
22FE SMALL CONTAINS WITH OVERBAR
22FF Z NOTATION BAG MEMBERSHIP
2300 DIAMETER SIGN
2301 ELECTRIC ARROW
2302 HOUSE
2303 UP ARROWHEAD
2304 DOWN ARROWHEAD
2305 PROJECTIVE
2306 PERSPECTIVE
2307 WAVY LINE
2308 LEFT CEILING
2309 RIGHT CEILING
230A LEFT FLOOR
230B RIGHT FLOOR
230C BOTTOM RIGHT CROP
230D BOTTOM LEFT CROP
230E TOP RIGHT CROP
230F TOP LEFT CROP
2310 REVERSED NOT SIGN
2311 SQUARE LOZENGE
2312 ARC
2313 SEGMENT
2314 SECTOR
2315 TELEPHONE RECORDER
2316 POSITION INDICATOR
2317 VIEWDATA SQUARE
2318 PLACE OF INTEREST SIGN
2319 TURNED NOT SIGN
231A WATCH
231B HOURGLASS
231C TOP LEFT CORNER
231D TOP RIGHT CORNER
231E BOTTOM LEFT CORNER
231F BOTTOM RIGHT CORNER
2320 TOP HALF INTEGRAL
2321 BOTTOM HALF INTEGRAL
2322 FROWN
2323 SMILE
2324 UP ARROWHEAD BETWEEN TWO HORIZONTAL BARS
2325 OPTION KEY
2326 ERASE TO THE RIGHT
2327 X IN A RECTANGLE BOX
2328 KEYBOARD
2329 LEFT-POINTING ANGLE BRACKET
232A RIGHT-POINTING ANGLE BRACKET
232B ERASE TO THE LEFT
232C BENZENE RING
232D CYLINDRICITY
232E ALL AROUND-PROFILE
232F SYMMETRY
2330 TOTAL RUNOUT
2331 DIMENSION ORIGIN
2332 CONICAL TAPER
2333 SLOPE
2334 COUNTERBORE
2335 COUNTERSINK
2336 APL FUNCTIONAL SYMBOL I-BEAM
2337 APL FUNCTIONAL SYMBOL SQUISH QUAD
2338 APL FUNCTIONAL SYMBOL QUAD EQUAL
2339 APL FUNCTIONAL SYMBOL QUAD DIVIDE
233A APL FUNCTIONAL SYMBOL QUAD DIAMOND
233B APL FUNCTIONAL SYMBOL QUAD JOT
233C APL FUNCTIONAL SYMBOL QUAD CIRCLE
233D APL FUNCTIONAL SYMBOL CIRCLE STILE
233E APL FUNCTIONAL SYMBOL CIRCLE JOT
233F APL FUNCTIONAL SYMBOL SLASH BAR
2340 APL FUNCTIONAL SYMBOL BACKSLASH BAR
2341 APL FUNCTIONAL SYMBOL QUAD SLASH
2342 APL FUNCTIONAL SYMBOL QUAD BACKSLASH
2343 APL FUNCTIONAL SYMBOL QUAD LESS-THAN
2344 APL FUNCTIONAL SYMBOL QUAD GREATER-THAN
2345 APL FUNCTIONAL SYMBOL LEFTWARDS VANE
2346 APL FUNCTIONAL SYMBOL RIGHTWARDS VANE
2347 APL FUNCTIONAL SYMBOL QUAD LEFTWARDS ARROW
2348 APL FUNCTIONAL SYMBOL QUAD RIGHTWARDS ARROW
2349 APL FUNCTIONAL SYMBOL CIRCLE BACKSLASH
234A APL FUNCTIONAL SYMBOL DOWN TACK UNDERBAR
234B APL FUNCTIONAL SYMBOL DELTA STILE
234C APL FUNCTIONAL SYMBOL QUAD DOWN CARET
234D APL FUNCTIONAL SYMBOL QUAD DELTA
234E APL FUNCTIONAL SYMBOL DOWN TACK JOT
234F APL FUNCTIONAL SYMBOL UPWARDS VANE
2350 APL FUNCTIONAL SYMBOL QUAD UPWARDS ARROW
2351 APL FUNCTIONAL SYMBOL UP TACK OVERBAR
2352 APL FUNCTIONAL SYMBOL DEL STILE
2353 APL FUNCTIONAL SYMBOL QUAD UP CARET
2354 APL FUNCTIONAL SYMBOL QUAD DEL
2355 APL FUNCTIONAL SYMBOL UP TACK JOT
2356 APL FUNCTIONAL SYMBOL DOWNWARDS VANE
2357 APL FUNCTIONAL SYMBOL QUAD DOWNWARDS ARROW
2358 APL FUNCTIONAL SYMBOL QUOTE UNDERBAR
2359 APL FUNCTIONAL SYMBOL DELTA UNDERBAR
235A APL FUNCTIONAL SYMBOL DIAMOND UNDERBAR
235B APL FUNCTIONAL SYMBOL JOT UNDERBAR
235C APL FUNCTIONAL SYMBOL CIRCLE UNDERBAR
235D APL FUNCTIONAL SYMBOL UP SHOE JOT
235E APL FUNCTIONAL SYMBOL QUOTE QUAD
235F APL FUNCTIONAL SYMBOL CIRCLE STAR
2360 APL FUNCTIONAL SYMBOL QUAD COLON
2361 APL FUNCTIONAL SYMBOL UP TACK DIAERESIS
2362 APL FUNCTIONAL SYMBOL DEL DIAERESIS
2363 APL FUNCTIONAL SYMBOL STAR DIAERESIS
2364 APL FUNCTIONAL SYMBOL JOT DIAERESIS
2365 APL FUNCTIONAL SYMBOL CIRCLE DIAERESIS
2366 APL FUNCTIONAL SYMBOL DOWN SHOE STILE
2367 APL FUNCTIONAL SYMBOL LEFT SHOE STILE
2368 APL FUNCTIONAL SYMBOL TILDE DIAERESIS
2369 APL FUNCTIONAL SYMBOL GREATER-THAN DIAERESIS
236A APL FUNCTIONAL SYMBOL COMMA BAR
236B APL FUNCTIONAL SYMBOL DEL TILDE
236C APL FUNCTIONAL SYMBOL ZILDE
236D APL FUNCTIONAL SYMBOL STILE TILDE
236E APL FUNCTIONAL SYMBOL SEMICOLON UNDERBAR
236F APL FUNCTIONAL SYMBOL QUAD NOT EQUAL
2370 APL FUNCTIONAL SYMBOL QUAD QUESTION
2371 APL FUNCTIONAL SYMBOL DOWN CARET TILDE
2372 APL FUNCTIONAL SYMBOL UP CARET TILDE
2373 APL FUNCTIONAL SYMBOL IOTA
2374 APL FUNCTIONAL SYMBOL RHO
2375 APL FUNCTIONAL SYMBOL OMEGA
2376 APL FUNCTIONAL SYMBOL ALPHA UNDERBAR
2377 APL FUNCTIONAL SYMBOL EPSILON UNDERBAR
2378 APL FUNCTIONAL SYMBOL IOTA UNDERBAR
2379 APL FUNCTIONAL SYMBOL OMEGA UNDERBAR
237A APL FUNCTIONAL SYMBOL ALPHA
237B NOT CHECK MARK
237C RIGHT ANGLE WITH DOWNWARDS ZIGZAG ARROW
237D SHOULDERED OPEN BOX
237E BELL SYMBOL
237F VERTICAL LINE WITH MIDDLE DOT
2380 INSERTION SYMBOL
2381 CONTINUOUS UNDERLINE SYMBOL
2382 DISCONTINUOUS UNDERLINE SYMBOL
2383 EMPHASIS SYMBOL
2384 COMPOSITION SYMBOL
2385 WHITE SQUARE WITH CENTRE VERTICAL LINE
2386 ENTER SYMBOL
2387 ALTERNATIVE KEY SYMBOL
2388 HELM SYMBOL
2389 CIRCLED HORIZONTAL BAR WITH NOTCH
238A CIRCLED TRIANGLE DOWN
238B BROKEN CIRCLE WITH NORTHWEST ARROW
238C UNDO SYMBOL
238D MONOSTABLE SYMBOL
238E HYSTERESIS SYMBOL
238F OPEN-CIRCUIT-OUTPUT H-TYPE SYMBOL
2390 OPEN-CIRCUIT-OUTPUT L-TYPE SYMBOL
2391 PASSIVE-PULL-DOWN-OUTPUT SYMBOL
2392 PASSIVE-PULL-UP-OUTPUT SYMBOL
2393 DIRECT CURRENT SYMBOL FORM TWO
2394 SOFTWARE-FUNCTION SYMBOL
2395 APL FUNCTIONAL SYMBOL QUAD
2396 DECIMAL SEPARATOR KEY SYMBOL
2397 PREVIOUS PAGE
2398 NEXT PAGE
2399 PRINT SCREEN SYMBOL
239A CLEAR SCREEN SYMBOL
239B LEFT PARENTHESIS UPPER HOOK
239C LEFT PARENTHESIS EXTENSION
239D LEFT PARENTHESIS LOWER HOOK
239E RIGHT PARENTHESIS UPPER HOOK
239F RIGHT PARENTHESIS EXTENSION
23A0 RIGHT PARENTHESIS LOWER HOOK
23A1 LEFT SQUARE BRACKET UPPER CORNER
23A2 LEFT SQUARE BRACKET EXTENSION
23A3 LEFT SQUARE BRACKET LOWER CORNER
23A4 RIGHT SQUARE BRACKET UPPER CORNER
23A5 RIGHT SQUARE BRACKET EXTENSION
23A6 RIGHT SQUARE BRACKET LOWER CORNER
23A7 LEFT CURLY BRACKET UPPER HOOK
23A8 LEFT CURLY BRACKET MIDDLE PIECE
23A9 LEFT CURLY BRACKET LOWER HOOK
23AA CURLY BRACKET EXTENSION
23AB RIGHT CURLY BRACKET UPPER HOOK
23AC RIGHT CURLY BRACKET MIDDLE PIECE
23AD RIGHT CURLY BRACKET LOWER HOOK
23AE INTEGRAL EXTENSION
23AF HORIZONTAL LINE EXTENSION
23B0 UPPER LEFT OR LOWER RIGHT CURLY BRACKET SECTION
23B1 UPPER RIGHT OR LOWER LEFT CURLY BRACKET SECTION
23B2 SUMMATION TOP
23B3 SUMMATION BOTTOM
23B4 TOP SQUARE BRACKET
23B5 BOTTOM SQUARE BRACKET
23B6 BOTTOM SQUARE BRACKET OVER TOP SQUARE BRACKET
23B7 RADICAL SYMBOL BOTTOM
23B8 LEFT VERTICAL BOX LINE
23B9 RIGHT VERTICAL BOX LINE
23BA HORIZONTAL SCAN LINE-1
23BB HORIZONTAL SCAN LINE-3
23BC HORIZONTAL SCAN LINE-7
23BD HORIZONTAL SCAN LINE-9
23BE DENTISTRY SYMBOL LIGHT VERTICAL AND TOP RIGHT
23BF DENTISTRY SYMBOL LIGHT VERTICAL AND BOTTOM RIGHT
23C0 DENTISTRY SYMBOL LIGHT VERTICAL WITH CIRCLE
23C1 DENTISTRY SYMBOL LIGHT DOWN AND HORIZONTAL WITH CIRCLE
23C2 DENTISTRY SYMBOL LIGHT UP AND HORIZONTAL WITH CIRCLE
23C3 DENTISTRY SYMBOL LIGHT VERTICAL WITH TRIANGLE
23C4 DENTISTRY SYMBOL LIGHT DOWN AND HORIZONTAL WITH TRIANGLE
23C5 DENTISTRY SYMBOL LIGHT UP AND HORIZONTAL WITH TRIANGLE
23C6 DENTISTRY SYMBOL LIGHT VERTICAL AND WAVE
23C7 DENTISTRY SYMBOL LIGHT DOWN AND HORIZONTAL WITH WAVE
23C8 DENTISTRY SYMBOL LIGHT UP AND HORIZONTAL WITH WAVE
23C9 DENTISTRY SYMBOL LIGHT DOWN AND HORIZONTAL
23CA DENTISTRY SYMBOL LIGHT UP AND HORIZONTAL
23CB DENTISTRY SYMBOL LIGHT VERTICAL AND TOP LEFT
23CC DENTISTRY SYMBOL LIGHT VERTICAL AND BOTTOM LEFT
23CD SQUARE FOOT
23CE RETURN SYMBOL
23CF EJECT SYMBOL
23D0 VERTICAL LINE EXTENSION
23D1 METRICAL BREVE
23D2 METRICAL LONG OVER SHORT
23D3 METRICAL SHORT OVER LONG
23D4 METRICAL LONG OVER TWO SHORTS
23D5 METRICAL TWO SHORTS OVER LONG
23D6 METRICAL TWO SHORTS JOINED
23D7 METRICAL TRISEME
23D8 METRICAL TETRASEME
23D9 METRICAL PENTASEME
23DA EARTH GROUND
23DB FUSE
23DC TOP PARENTHESIS
23DD BOTTOM PARENTHESIS
23DE TOP CURLY BRACKET
23DF BOTTOM CURLY BRACKET
23E0 TOP TORTOISE SHELL BRACKET
23E1 BOTTOM TORTOISE SHELL BRACKET
23E2 WHITE TRAPEZIUM
23E3 BENZENE RING WITH CIRCLE
23E4 STRAIGHTNESS
23E5 FLATNESS
23E6 AC CURRENT
23E7 ELECTRICAL INTERSECTION
23E8 DECIMAL EXPONENT SYMBOL
23E9 BLACK RIGHT-POINTING DOUBLE TRIANGLE
23EA BLACK LEFT-POINTING DOUBLE TRIANGLE
23EB BLACK UP-POINTING DOUBLE TRIANGLE
23EC BLACK DOWN-POINTING DOUBLE TRIANGLE
23ED BLACK RIGHT-POINTING DOUBLE TRIANGLE WITH VERTICAL BAR
23EE BLACK LEFT-POINTING DOUBLE TRIANGLE WITH VERTICAL BAR
23EF BLACK RIGHT-POINTING TRIANGLE WITH DOUBLE VERTICAL BAR
23F0 ALARM CLOCK
23F1 STOPWATCH
23F2 TIMER CLOCK
23F3 HOURGLASS WITH FLOWING SAND
23F4 BLACK MEDIUM LEFT-POINTING TRIANGLE
23F5 BLACK MEDIUM RIGHT-POINTING TRIANGLE
23F6 BLACK MEDIUM UP-POINTING TRIANGLE
23F7 BLACK MEDIUM DOWN-POINTING TRIANGLE
23F8 DOUBLE VERTICAL BAR
23F9 BLACK SQUARE FOR STOP
23FA BLACK CIRCLE FOR RECORD
23FB POWER SYMBOL
23FC POWER ON-OFF SYMBOL
23FD POWER ON SYMBOL
23FE POWER SLEEP SYMBOL
23FF OBSERVER EYE SYMBOL
2460 CIRCLED DIGIT ONE
2461 CIRCLED DIGIT TWO
2462 CIRCLED DIGIT THREE
2463 CIRCLED DIGIT FOUR
2464 CIRCLED DIGIT FIVE
2465 CIRCLED DIGIT SIX
2466 CIRCLED DIGIT SEVEN
2467 CIRCLED DIGIT EIGHT
2468 CIRCLED DIGIT NINE
2469 CIRCLED NUMBER TEN
246A CIRCLED NUMBER ELEVEN
246B CIRCLED NUMBER TWELVE
246C CIRCLED NUMBER THIRTEEN
246D CIRCLED NUMBER FOURTEEN
246E CIRCLED NUMBER FIFTEEN
246F CIRCLED NUMBER SIXTEEN
2470 CIRCLED NUMBER SEVENTEEN
2471 CIRCLED NUMBER EIGHTEEN
2472 CIRCLED NUMBER NINETEEN
2473 CIRCLED NUMBER TWENTY
2474 PARENTHESIZED DIGIT ONE
2475 PARENTHESIZED DIGIT TWO
2476 PARENTHESIZED DIGIT THREE
2477 PARENTHESIZED DIGIT FOUR
2478 PARENTHESIZED DIGIT FIVE
2479 PARENTHESIZED DIGIT SIX
247A PARENTHESIZED DIGIT SEVEN
247B PARENTHESIZED DIGIT EIGHT
247C PARENTHESIZED DIGIT NINE
247D PARENTHESIZED NUMBER TEN
247E PARENTHESIZED NUMBER ELEVEN
247F PARENTHESIZED NUMBER TWELVE
2480 PARENTHESIZED NUMBER THIRTEEN
2481 PARENTHESIZED NUMBER FOURTEEN
2482 PARENTHESIZED NUMBER FIFTEEN
2483 PARENTHESIZED NUMBER SIXTEEN
2484 PARENTHESIZED NUMBER SEVENTEEN
2485 PARENTHESIZED NUMBER EIGHTEEN
2486 PARENTHESIZED NUMBER NINETEEN
2487 PARENTHESIZED NUMBER TWENTY
2488 DIGIT ONE FULL STOP
2489 DIGIT TWO FULL STOP
248A DIGIT THREE FULL STOP
248B DIGIT FOUR FULL STOP
248C DIGIT FIVE FULL STOP
248D DIGIT SIX FULL STOP
248E DIGIT SEVEN FULL STOP
248F DIGIT EIGHT FULL STOP
2490 DIGIT NINE FULL STOP
2491 NUMBER TEN FULL STOP
2492 NUMBER ELEVEN FULL STOP
2493 NUMBER TWELVE FULL STOP
2494 NUMBER THIRTEEN FULL STOP
2495 NUMBER FOURTEEN FULL STOP
2496 NUMBER FIFTEEN FULL STOP
2497 NUMBER SIXTEEN FULL STOP
2498 NUMBER SEVENTEEN FULL STOP
2499 NUMBER EIGHTEEN FULL STOP
249A NUMBER NINETEEN FULL STOP
249B NUMBER TWENTY FULL STOP
249C PARENTHESIZED LATIN SMALL LETTER A
249D PARENTHESIZED LATIN SMALL LETTER B
249E PARENTHESIZED LATIN SMALL LETTER C
249F PARENTHESIZED LATIN SMALL LETTER D
24A0 PARENTHESIZED LATIN SMALL LETTER E
24A1 PARENTHESIZED LATIN SMALL LETTER F
24A2 PARENTHESIZED LATIN SMALL LETTER G
24A3 PARENTHESIZED LATIN SMALL LETTER H
24A4 PARENTHESIZED LATIN SMALL LETTER I
24A5 PARENTHESIZED LATIN SMALL LETTER J
24A6 PARENTHESIZED LATIN SMALL LETTER K
24A7 PARENTHESIZED LATIN SMALL LETTER L
24A8 PARENTHESIZED LATIN SMALL LETTER M
24A9 PARENTHESIZED LATIN SMALL LETTER N
24AA PARENTHESIZED LATIN SMALL LETTER O
24AB PARENTHESIZED LATIN SMALL LETTER P
24AC PARENTHESIZED LATIN SMALL LETTER Q
24AD PARENTHESIZED LATIN SMALL LETTER R
24AE PARENTHESIZED LATIN SMALL LETTER S
24AF PARENTHESIZED LATIN SMALL LETTER T
24B0 PARENTHESIZED LATIN SMALL LETTER U
24B1 PARENTHESIZED LATIN SMALL LETTER V
24B2 PARENTHESIZED LATIN SMALL LETTER W
24B3 PARENTHESIZED LATIN SMALL LETTER X
24B4 PARENTHESIZED LATIN SMALL LETTER Y
24B5 PARENTHESIZED LATIN SMALL LETTER Z
24B6 CIRCLED LATIN CAPITAL LETTER A
24B7 CIRCLED LATIN CAPITAL LETTER B
24B8 CIRCLED LATIN CAPITAL LETTER C
24B9 CIRCLED LATIN CAPITAL LETTER D
24BA CIRCLED LATIN CAPITAL LETTER E
24BB CIRCLED LATIN CAPITAL LETTER F
24BC CIRCLED LATIN CAPITAL LETTER G
24BD CIRCLED LATIN CAPITAL LETTER H
24BE CIRCLED LATIN CAPITAL LETTER I
24BF CIRCLED LATIN CAPITAL LETTER J
24C0 CIRCLED LATIN CAPITAL LETTER K
24C1 CIRCLED LATIN CAPITAL LETTER L
24C2 CIRCLED LATIN CAPITAL LETTER M
24C3 CIRCLED LATIN CAPITAL LETTER N
24C4 CIRCLED LATIN CAPITAL LETTER O
24C5 CIRCLED LATIN CAPITAL LETTER P
24C6 CIRCLED LATIN CAPITAL LETTER Q
24C7 CIRCLED LATIN CAPITAL LETTER R
24C8 CIRCLED LATIN CAPITAL LETTER S
24C9 CIRCLED LATIN CAPITAL LETTER T
24CA CIRCLED LATIN CAPITAL LETTER U
24CB CIRCLED LATIN CAPITAL LETTER V
24CC CIRCLED LATIN CAPITAL LETTER W
24CD CIRCLED LATIN CAPITAL LETTER X
24CE CIRCLED LATIN CAPITAL LETTER Y
24CF CIRCLED LATIN CAPITAL LETTER Z
24D0 CIRCLED LATIN SMALL LETTER A
24D1 CIRCLED LATIN SMALL LETTER B
24D2 CIRCLED LATIN SMALL LETTER C
24D3 CIRCLED LATIN SMALL LETTER D
24D4 CIRCLED LATIN SMALL LETTER E
24D5 CIRCLED LATIN SMALL LETTER F
24D6 CIRCLED LATIN SMALL LETTER G
24D7 CIRCLED LATIN SMALL LETTER H
24D8 CIRCLED LATIN SMALL LETTER I
24D9 CIRCLED LATIN SMALL LETTER J
24DA CIRCLED LATIN SMALL LETTER K
24DB CIRCLED LATIN SMALL LETTER L
24DC CIRCLED LATIN SMALL LETTER M
24DD CIRCLED LATIN SMALL LETTER N
24DE CIRCLED LATIN SMALL LETTER O
24DF CIRCLED LATIN SMALL LETTER P
24E0 CIRCLED LATIN SMALL LETTER Q
24E1 CIRCLED LATIN SMALL LETTER R
24E2 CIRCLED LATIN SMALL LETTER S
24E3 CIRCLED LATIN SMALL LETTER T
24E4 CIRCLED LATIN SMALL LETTER U
24E5 CIRCLED LATIN SMALL LETTER V
24E6 CIRCLED LATIN SMALL LETTER W
24E7 CIRCLED LATIN SMALL LETTER X
24E8 CIRCLED LATIN SMALL LETTER Y
24E9 CIRCLED LATIN SMALL LETTER Z
24EA CIRCLED DIGIT ZERO
24EB NEGATIVE CIRCLED NUMBER ELEVEN
24EC NEGATIVE CIRCLED NUMBER TWELVE
24ED NEGATIVE CIRCLED NUMBER THIRTEEN
24EE NEGATIVE CIRCLED NUMBER FOURTEEN
24EF NEGATIVE CIRCLED NUMBER FIFTEEN
24F0 NEGATIVE CIRCLED NUMBER SIXTEEN
24F1 NEGATIVE CIRCLED NUMBER SEVENTEEN
24F2 NEGATIVE CIRCLED NUMBER EIGHTEEN
24F3 NEGATIVE CIRCLED NUMBER NINETEEN
24F4 NEGATIVE CIRCLED NUMBER TWENTY
24F5 DOUBLE CIRCLED DIGIT ONE
24F6 DOUBLE CIRCLED DIGIT TWO
24F7 DOUBLE CIRCLED DIGIT THREE
24F8 DOUBLE CIRCLED DIGIT FOUR
24F9 DOUBLE CIRCLED DIGIT FIVE
24FA DOUBLE CIRCLED DIGIT SIX
24FB DOUBLE CIRCLED DIGIT SEVEN
24FC DOUBLE CIRCLED DIGIT EIGHT
24FD DOUBLE CIRCLED DIGIT NINE
24FE DOUBLE CIRCLED NUMBER TEN
24FF NEGATIVE CIRCLED DIGIT ZERO
2500 BOX DRAWINGS LIGHT HORIZONTAL
2501 BOX DRAWINGS HEAVY HORIZONTAL
2502 BOX DRAWINGS LIGHT VERTICAL
2503 BOX DRAWINGS HEAVY VERTICAL
2504 BOX DRAWINGS LIGHT TRIPLE DASH HORIZONTAL
2505 BOX DRAWINGS HEAVY TRIPLE DASH HORIZONTAL
2506 BOX DRAWINGS LIGHT TRIPLE DASH VERTICAL
2507 BOX DRAWINGS HEAVY TRIPLE DASH VERTICAL
2508 BOX DRAWINGS LIGHT QUADRUPLE DASH HORIZONTAL
2509 BOX DRAWINGS HEAVY QUADRUPLE DASH HORIZONTAL
250A BOX DRAWINGS LIGHT QUADRUPLE DASH VERTICAL
250B BOX DRAWINGS HEAVY QUADRUPLE DASH VERTICAL
250C BOX DRAWINGS LIGHT DOWN AND RIGHT
250D BOX DRAWINGS DOWN LIGHT AND RIGHT HEAVY
250E BOX DRAWINGS DOWN HEAVY AND RIGHT LIGHT
250F BOX DRAWINGS HEAVY DOWN AND RIGHT
2510 BOX DRAWINGS LIGHT DOWN AND LEFT
2511 BOX DRAWINGS DOWN LIGHT AND LEFT HEAVY
2512 BOX DRAWINGS DOWN HEAVY AND LEFT LIGHT
2513 BOX DRAWINGS HEAVY DOWN AND LEFT
2514 BOX DRAWINGS LIGHT UP AND RIGHT
2515 BOX DRAWINGS UP LIGHT AND RIGHT HEAVY
2516 BOX DRAWINGS UP HEAVY AND RIGHT LIGHT
2517 BOX DRAWINGS HEAVY UP AND RIGHT
2518 BOX DRAWINGS LIGHT UP AND LEFT
2519 BOX DRAWINGS UP LIGHT AND LEFT HEAVY
251A BOX DRAWINGS UP HEAVY AND LEFT LIGHT
251B BOX DRAWINGS HEAVY UP AND LEFT
251C BOX DRAWINGS LIGHT VERTICAL AND RIGHT
251D BOX DRAWINGS VERTICAL LIGHT AND RIGHT HEAVY
251E BOX DRAWINGS UP HEAVY AND RIGHT DOWN LIGHT
251F BOX DRAWINGS DOWN HEAVY AND RIGHT UP LIGHT
2520 BOX DRAWINGS VERTICAL HEAVY AND RIGHT LIGHT
2521 BOX DRAWINGS DOWN LIGHT AND RIGHT UP HEAVY
2522 BOX DRAWINGS UP LIGHT AND RIGHT DOWN HEAVY
2523 BOX DRAWINGS HEAVY VERTICAL AND RIGHT
2524 BOX DRAWINGS LIGHT VERTICAL AND LEFT
2525 BOX DRAWINGS VERTICAL LIGHT AND LEFT HEAVY
2526 BOX DRAWINGS UP HEAVY AND LEFT DOWN LIGHT
2527 BOX DRAWINGS DOWN HEAVY AND LEFT UP LIGHT
2528 BOX DRAWINGS VERTICAL HEAVY AND LEFT LIGHT
2529 BOX DRAWINGS DOWN LIGHT AND LEFT UP HEAVY
252A BOX DRAWINGS UP LIGHT AND LEFT DOWN HEAVY
252B BOX DRAWINGS HEAVY VERTICAL AND LEFT
252C BOX DRAWINGS LIGHT DOWN AND HORIZONTAL
252D BOX DRAWINGS LEFT HEAVY AND RIGHT DOWN LIGHT
252E BOX DRAWINGS RIGHT HEAVY AND LEFT DOWN LIGHT
252F BOX DRAWINGS DOWN LIGHT AND HORIZONTAL HEAVY
2530 BOX DRAWINGS DOWN HEAVY AND HORIZONTAL LIGHT
2531 BOX DRAWINGS RIGHT LIGHT AND LEFT DOWN HEAVY
2532 BOX DRAWINGS LEFT LIGHT AND RIGHT DOWN HEAVY
2533 BOX DRAWINGS HEAVY DOWN AND HORIZONTAL
2534 BOX DRAWINGS LIGHT UP AND HORIZONTAL
2535 BOX DRAWINGS LEFT HEAVY AND RIGHT UP LIGHT
2536 BOX DRAWINGS RIGHT HEAVY AND LEFT UP LIGHT
2537 BOX DRAWINGS UP LIGHT AND HORIZONTAL HEAVY
2538 BOX DRAWINGS UP HEAVY AND HORIZONTAL LIGHT
2539 BOX DRAWINGS RIGHT LIGHT AND LEFT UP HEAVY
253A BOX DRAWINGS LEFT LIGHT AND RIGHT UP HEAVY
253B BOX DRAWINGS HEAVY UP AND HORIZONTAL
253C BOX DRAWINGS LIGHT VERTICAL AND HORIZONTAL
253D BOX DRAWINGS LEFT HEAVY AND RIGHT VERTICAL LIGHT
253E BOX DRAWINGS RIGHT HEAVY AND LEFT VERTICAL LIGHT
253F BOX DRAWINGS VERTICAL LIGHT AND HORIZONTAL HEAVY
2540 BOX DRAWINGS UP HEAVY AND DOWN HORIZONTAL LIGHT
2541 BOX DRAWINGS DOWN HEAVY AND UP HORIZONTAL LIGHT
2542 BOX DRAWINGS VERTICAL HEAVY AND HORIZONTAL LIGHT
2543 BOX DRAWINGS LEFT UP HEAVY AND RIGHT DOWN LIGHT
2544 BOX DRAWINGS RIGHT UP HEAVY AND LEFT DOWN LIGHT
2545 BOX DRAWINGS LEFT DOWN HEAVY AND RIGHT UP LIGHT
2546 BOX DRAWINGS RIGHT DOWN HEAVY AND LEFT UP LIGHT
2547 BOX DRAWINGS DOWN LIGHT AND UP HORIZONTAL HEAVY
2548 BOX DRAWINGS UP LIGHT AND DOWN HORIZONTAL HEAVY
2549 BOX DRAWINGS RIGHT LIGHT AND LEFT VERTICAL HEAVY
254A BOX DRAWINGS LEFT LIGHT AND RIGHT VERTICAL HEAVY
254B BOX DRAWINGS HEAVY VERTICAL AND HORIZONTAL
254C BOX DRAWINGS LIGHT DOUBLE DASH HORIZONTAL
254D BOX DRAWINGS HEAVY DOUBLE DASH HORIZONTAL
254E BOX DRAWINGS LIGHT DOUBLE DASH VERTICAL
254F BOX DRAWINGS HEAVY DOUBLE DASH VERTICAL
2550 BOX DRAWINGS DOUBLE HORIZONTAL
2551 BOX DRAWINGS DOUBLE VERTICAL
2552 BOX DRAWINGS DOWN SINGLE AND RIGHT DOUBLE
2553 BOX DRAWINGS DOWN DOUBLE AND RIGHT SINGLE
2554 BOX DRAWINGS DOUBLE DOWN AND RIGHT
2555 BOX DRAWINGS DOWN SINGLE AND LEFT DOUBLE
2556 BOX DRAWINGS DOWN DOUBLE AND LEFT SINGLE
2557 BOX DRAWINGS DOUBLE DOWN AND LEFT
2558 BOX DRAWINGS UP SINGLE AND RIGHT DOUBLE
2559 BOX DRAWINGS UP DOUBLE AND RIGHT SINGLE
255A BOX DRAWINGS DOUBLE UP AND RIGHT
255B BOX DRAWINGS UP SINGLE AND LEFT DOUBLE
255C BOX DRAWINGS UP DOUBLE AND LEFT SINGLE
255D BOX DRAWINGS DOUBLE UP AND LEFT
255E BOX DRAWINGS VERTICAL SINGLE AND RIGHT DOUBLE
255F BOX DRAWINGS VERTICAL DOUBLE AND RIGHT SINGLE
2560 BOX DRAWINGS DOUBLE VERTICAL AND RIGHT
2561 BOX DRAWINGS VERTICAL SINGLE AND LEFT DOUBLE
2562 BOX DRAWINGS VERTICAL DOUBLE AND LEFT SINGLE
2563 BOX DRAWINGS DOUBLE VERTICAL AND LEFT
2564 BOX DRAWINGS DOWN SINGLE AND HORIZONTAL DOUBLE
2565 BOX DRAWINGS DOWN DOUBLE AND HORIZONTAL SINGLE
2566 BOX DRAWINGS DOUBLE DOWN AND HORIZONTAL
2567 BOX DRAWINGS UP SINGLE AND HORIZONTAL DOUBLE
2568 BOX DRAWINGS UP DOUBLE AND HORIZONTAL SINGLE
2569 BOX DRAWINGS DOUBLE UP AND HORIZONTAL
256A BOX DRAWINGS VERTICAL SINGLE AND HORIZONTAL DOUBLE
256B BOX DRAWINGS VERTICAL DOUBLE AND HORIZONTAL SINGLE
256C BOX DRAWINGS DOUBLE VERTICAL AND HORIZONTAL
256D BOX DRAWINGS LIGHT ARC DOWN AND RIGHT
256E BOX DRAWINGS LIGHT ARC DOWN AND LEFT
256F BOX DRAWINGS LIGHT ARC UP AND LEFT
2570 BOX DRAWINGS LIGHT ARC UP AND RIGHT
2571 BOX DRAWINGS LIGHT DIAGONAL UPPER RIGHT TO LOWER LEFT
2572 BOX DRAWINGS LIGHT DIAGONAL UPPER LEFT TO LOWER RIGHT
2573 BOX DRAWINGS LIGHT DIAGONAL CROSS
2574 BOX DRAWINGS LIGHT LEFT
2575 BOX DRAWINGS LIGHT UP
2576 BOX DRAWINGS LIGHT RIGHT
2577 BOX DRAWINGS LIGHT DOWN
2578 BOX DRAWINGS HEAVY LEFT
2579 BOX DRAWINGS HEAVY UP
257A BOX DRAWINGS HEAVY RIGHT
257B BOX DRAWINGS HEAVY DOWN
257C BOX DRAWINGS LIGHT LEFT AND HEAVY RIGHT
257D BOX DRAWINGS LIGHT UP AND HEAVY DOWN
257E BOX DRAWINGS HEAVY LEFT AND LIGHT RIGHT
257F BOX DRAWINGS HEAVY UP AND LIGHT DOWN
2580 UPPER HALF BLOCK
2581 LOWER ONE EIGHTH BLOCK
2582 LOWER ONE QUARTER BLOCK
2583 LOWER THREE EIGHTHS BLOCK
2584 LOWER HALF BLOCK
2585 LOWER FIVE EIGHTHS BLOCK
2586 LOWER THREE QUARTERS BLOCK
2587 LOWER SEVEN EIGHTHS BLOCK
2588 FULL BLOCK
2589 LEFT SEVEN EIGHTHS BLOCK
258A LEFT THREE QUARTERS BLOCK
258B LEFT FIVE EIGHTHS BLOCK
258C LEFT HALF BLOCK
258D LEFT THREE EIGHTHS BLOCK
258E LEFT ONE QUARTER BLOCK
258F LEFT ONE EIGHTH BLOCK
2590 RIGHT HALF BLOCK
2591 LIGHT SHADE
2592 MEDIUM SHADE
2593 DARK SHADE
2594 UPPER ONE EIGHTH BLOCK
2595 RIGHT ONE EIGHTH BLOCK
2596 QUADRANT LOWER LEFT
2597 QUADRANT LOWER RIGHT
2598 QUADRANT UPPER LEFT
2599 QUADRANT UPPER LEFT AND LOWER LEFT AND LOWER RIGHT
259A QUADRANT UPPER LEFT AND LOWER RIGHT
259B QUADRANT UPPER LEFT AND UPPER RIGHT AND LOWER LEFT
259C QUADRANT UPPER LEFT AND UPPER RIGHT AND LOWER RIGHT
259D QUADRANT UPPER RIGHT
259E QUADRANT UPPER RIGHT AND LOWER LEFT
259F QUADRANT UPPER RIGHT AND LOWER LEFT AND LOWER RIGHT
25A0 BLACK SQUARE
25A1 WHITE SQUARE
25A2 WHITE SQUARE WITH ROUNDED CORNERS
25A3 WHITE SQUARE CONTAINING BLACK SMALL SQUARE
25A4 SQUARE WITH HORIZONTAL FILL
25A5 SQUARE WITH VERTICAL FILL
25A6 SQUARE WITH ORTHOGONAL CROSSHATCH FILL
25A7 SQUARE WITH UPPER LEFT TO LOWER RIGHT FILL
25A8 SQUARE WITH UPPER RIGHT TO LOWER LEFT FILL
25A9 SQUARE WITH DIAGONAL CROSSHATCH FILL
25AA BLACK SMALL SQUARE
25AB WHITE SMALL SQUARE
25AC BLACK RECTANGLE
25AD WHITE RECTANGLE
25AE BLACK VERTICAL RECTANGLE
25AF WHITE VERTICAL RECTANGLE
25B0 BLACK PARALLELOGRAM
25B1 WHITE PARALLELOGRAM
25B2 BLACK UP-POINTING TRIANGLE
25B3 WHITE UP-POINTING TRIANGLE
25B4 BLACK UP-POINTING SMALL TRIANGLE
25B5 WHITE UP-POINTING SMALL TRIANGLE
25B6 BLACK RIGHT-POINTING TRIANGLE
25B7 WHITE RIGHT-POINTING TRIANGLE
25B8 BLACK RIGHT-POINTING SMALL TRIANGLE
25B9 WHITE RIGHT-POINTING SMALL TRIANGLE
25BA BLACK RIGHT-POINTING POINTER
25BB WHITE RIGHT-POINTING POINTER
25BC BLACK DOWN-POINTING TRIANGLE
25BD WHITE DOWN-POINTING TRIANGLE
25BE BLACK DOWN-POINTING SMALL TRIANGLE
25BF WHITE DOWN-POINTING SMALL TRIANGLE
25C0 BLACK LEFT-POINTING TRIANGLE
25C1 WHITE LEFT-POINTING TRIANGLE
25C2 BLACK LEFT-POINTING SMALL TRIANGLE
25C3 WHITE LEFT-POINTING SMALL TRIANGLE
25C4 BLACK LEFT-POINTING POINTER
25C5 WHITE LEFT-POINTING POINTER
25C6 BLACK DIAMOND
25C7 WHITE DIAMOND
25C8 WHITE DIAMOND CONTAINING BLACK SMALL DIAMOND
25C9 FISHEYE
25CA LOZENGE
25CB WHITE CIRCLE
25CC DOTTED CIRCLE
25CD CIRCLE WITH VERTICAL FILL
25CE BULLSEYE
25CF BLACK CIRCLE
25D0 CIRCLE WITH LEFT HALF BLACK
25D1 CIRCLE WITH RIGHT HALF BLACK
25D2 CIRCLE WITH LOWER HALF BLACK
25D3 CIRCLE WITH UPPER HALF BLACK
25D4 CIRCLE WITH UPPER RIGHT QUADRANT BLACK
25D5 CIRCLE WITH ALL BUT UPPER LEFT QUADRANT BLACK
25D6 LEFT HALF BLACK CIRCLE
25D7 RIGHT HALF BLACK CIRCLE
25D8 INVERSE BULLET
25D9 INVERSE WHITE CIRCLE
25DA UPPER HALF INVERSE WHITE CIRCLE
25DB LOWER HALF INVERSE WHITE CIRCLE
25DC UPPER LEFT QUADRANT CIRCULAR ARC
25DD UPPER RIGHT QUADRANT CIRCULAR ARC
25DE LOWER RIGHT QUADRANT CIRCULAR ARC
25DF LOWER LEFT QUADRANT CIRCULAR ARC
25E0 UPPER HALF CIRCLE
25E1 LOWER HALF CIRCLE
25E2 BLACK LOWER RIGHT TRIANGLE
25E3 BLACK LOWER LEFT TRIANGLE
25E4 BLACK UPPER LEFT TRIANGLE
25E5 BLACK UPPER RIGHT TRIANGLE
25E6 WHITE BULLET
25E7 SQUARE WITH LEFT HALF BLACK
25E8 SQUARE WITH RIGHT HALF BLACK
25E9 SQUARE WITH UPPER LEFT DIAGONAL HALF BLACK
25EA SQUARE WITH LOWER RIGHT DIAGONAL HALF BLACK
25EB WHITE SQUARE WITH VERTICAL BISECTING LINE
25EC WHITE UP-POINTING TRIANGLE WITH DOT
25ED UP-POINTING TRIANGLE WITH LEFT HALF BLACK
25EE UP-POINTING TRIANGLE WITH RIGHT HALF BLACK
25EF LARGE CIRCLE
25F0 WHITE SQUARE WITH UPPER LEFT QUADRANT
25F1 WHITE SQUARE WITH LOWER LEFT QUADRANT
25F2 WHITE SQUARE WITH LOWER RIGHT QUADRANT
25F3 WHITE SQUARE WITH UPPER RIGHT QUADRANT
25F4 WHITE CIRCLE WITH UPPER LEFT QUADRANT
25F5 WHITE CIRCLE WITH LOWER LEFT QUADRANT
25F6 WHITE CIRCLE WITH LOWER RIGHT QUADRANT
25F7 WHITE CIRCLE WITH UPPER RIGHT QUADRANT
25F8 UPPER LEFT TRIANGLE
25F9 UPPER RIGHT TRIANGLE
25FA LOWER LEFT TRIANGLE
25FB WHITE MEDIUM SQUARE
25FC BLACK MEDIUM SQUARE
25FD WHITE MEDIUM SMALL SQUARE
25FE BLACK MEDIUM SMALL SQUARE
25FF LOWER RIGHT TRIANGLE
2600 BLACK SUN WITH RAYS
2601 CLOUD
2602 UMBRELLA
2603 SNOWMAN
2604 COMET
2605 BLACK STAR
2606 WHITE STAR
2607 LIGHTNING
2608 THUNDERSTORM
2609 SUN
260A ASCENDING NODE
260B DESCENDING NODE
260C CONJUNCTION
260D OPPOSITION
260E BLACK TELEPHONE
260F WHITE TELEPHONE
2610 BALLOT BOX
2611 BALLOT BOX WITH CHECK
2612 BALLOT BOX WITH X
2613 SALTIRE
2614 UMBRELLA WITH RAIN DROPS
2615 HOT BEVERAGE
2616 WHITE SHOGI PIECE
2617 BLACK SHOGI PIECE
2618 SHAMROCK
2619 REVERSED ROTATED FLORAL HEART BULLET
261A BLACK LEFT POINTING INDEX
261B BLACK RIGHT POINTING INDEX
261C WHITE LEFT POINTING INDEX
261D WHITE UP POINTING INDEX
261E WHITE RIGHT POINTING INDEX
261F WHITE DOWN POINTING INDEX
2620 SKULL AND CROSSBONES
2621 CAUTION SIGN
2622 RADIOACTIVE SIGN
2623 BIOHAZARD SIGN
2624 CADUCEUS
2625 ANKH
2626 ORTHODOX CROSS
2627 CHI RHO
2628 CROSS OF LORRAINE
2629 CROSS OF JERUSALEM
262A STAR AND CRESCENT
262B FARSI SYMBOL
262C ADI SHAKTI
262D HAMMER AND SICKLE
262E PEACE SYMBOL
262F YIN YANG
2630 TRIGRAM FOR HEAVEN
2631 TRIGRAM FOR LAKE
2632 TRIGRAM FOR FIRE
2633 TRIGRAM FOR THUNDER
2634 TRIGRAM FOR WIND
2635 TRIGRAM FOR WATER
2636 TRIGRAM FOR MOUNTAIN
2637 TRIGRAM FOR EARTH
2638 WHEEL OF DHARMA
2639 WHITE FROWNING FACE
263A WHITE SMILING FACE
263B BLACK SMILING FACE
263C WHITE SUN WITH RAYS
263D FIRST QUARTER MOON
263E LAST QUARTER MOON
263F MERCURY
2640 FEMALE SIGN
2641 EARTH
2642 MALE SIGN
2643 JUPITER
2644 SATURN
2645 URANUS
2646 NEPTUNE
2647 PLUTO
2648 ARIES
2649 TAURUS
264A GEMINI
264B CANCER
264C LEO
264D VIRGO
264E LIBRA
264F SCORPIUS
2650 SAGITTARIUS
2651 CAPRICORN
2652 AQUARIUS
2653 PISCES
2654 WHITE CHESS KING
2655 WHITE CHESS QUEEN
2656 WHITE CHESS ROOK
2657 WHITE CHESS BISHOP
2658 WHITE CHESS KNIGHT
2659 WHITE CHESS PAWN
265A BLACK CHESS KING
265B BLACK CHESS QUEEN
265C BLACK CHESS ROOK
265D BLACK CHESS BISHOP
265E BLACK CHESS KNIGHT
265F BLACK CHESS PAWN
2660 BLACK SPADE SUIT
2661 WHITE HEART SUIT
2662 WHITE DIAMOND SUIT
2663 BLACK CLUB SUIT
2664 WHITE SPADE SUIT
2665 BLACK HEART SUIT
2666 BLACK DIAMOND SUIT
2667 WHITE CLUB SUIT
2668 HOT SPRINGS
2669 QUARTER NOTE
266A EIGHTH NOTE
266B BEAMED EIGHTH NOTES
266C BEAMED SIXTEENTH NOTES
266D MUSIC FLAT SIGN
266E MUSIC NATURAL SIGN
266F MUSIC SHARP SIGN
2670 WEST SYRIAC CROSS
2671 EAST SYRIAC CROSS
2672 UNIVERSAL RECYCLING SYMBOL
2673 RECYCLING SYMBOL FOR TYPE-1 PLASTICS
2674 RECYCLING SYMBOL FOR TYPE-2 PLASTICS
2675 RECYCLING SYMBOL FOR TYPE-3 PLASTICS
2676 RECYCLING SYMBOL FOR TYPE-4 PLASTICS
2677 RECYCLING SYMBOL FOR TYPE-5 PLASTICS
2678 RECYCLING SYMBOL FOR TYPE-6 PLASTICS
2679 RECYCLING SYMBOL FOR TYPE-7 PLASTICS
267A RECYCLING SYMBOL FOR GENERIC MATERIALS
267B BLACK UNIVERSAL RECYCLING SYMBOL
267C RECYCLED PAPER SYMBOL
267D PARTIALLY-RECYCLED PAPER SYMBOL
267E PERMANENT PAPER SIGN
267F WHEELCHAIR SYMBOL
2680 DIE FACE-1
2681 DIE FACE-2
2682 DIE FACE-3
2683 DIE FACE-4
2684 DIE FACE-5
2685 DIE FACE-6
2686 WHITE CIRCLE WITH DOT RIGHT
2687 WHITE CIRCLE WITH TWO DOTS
2688 BLACK CIRCLE WITH WHITE DOT RIGHT
2689 BLACK CIRCLE WITH TWO WHITE DOTS
268A MONOGRAM FOR YANG
268B MONOGRAM FOR YIN
268C DIGRAM FOR GREATER YANG
268D DIGRAM FOR LESSER YIN
268E DIGRAM FOR LESSER YANG
268F DIGRAM FOR GREATER YIN
2690 WHITE FLAG
2691 BLACK FLAG
2692 HAMMER AND PICK
2693 ANCHOR
2694 CROSSED SWORDS
2695 STAFF OF AESCULAPIUS
2696 SCALES
2697 ALEMBIC
2698 FLOWER
2699 GEAR
269A STAFF OF HERMES
269B ATOM SYMBOL
269C FLEUR-DE-LIS
269D OUTLINED WHITE STAR
269E THREE LINES CONVERGING RIGHT
269F THREE LINES CONVERGING LEFT
26A0 WARNING SIGN
26A1 HIGH VOLTAGE SIGN
26A2 DOUBLED FEMALE SIGN
26A3 DOUBLED MALE SIGN
26A4 INTERLOCKED FEMALE AND MALE SIGN
26A5 MALE AND FEMALE SIGN
26A6 MALE WITH STROKE SIGN
26A7 MALE WITH STROKE AND MALE AND FEMALE SIGN
26A8 VERTICAL MALE WITH STROKE SIGN
26A9 HORIZONTAL MALE WITH STROKE SIGN
26AA MEDIUM WHITE CIRCLE
26AB MEDIUM BLACK CIRCLE
26AC MEDIUM SMALL WHITE CIRCLE
26AD MARRIAGE SYMBOL
26AE DIVORCE SYMBOL
26AF UNMARRIED PARTNERSHIP SYMBOL
26B0 COFFIN
26B1 FUNERAL URN
26B2 NEUTER
26B3 CERES
26B4 PALLAS
26B5 JUNO
26B6 VESTA
26B7 CHIRON
26B8 BLACK MOON LILITH
26B9 SEXTILE
26BA SEMISEXTILE
26BB QUINCUNX
26BC SESQUIQUADRATE
26BD SOCCER BALL
26BE BASEBALL
26BF SQUARED KEY
26C0 WHITE DRAUGHTS MAN
26C1 WHITE DRAUGHTS KING
26C2 BLACK DRAUGHTS MAN
26C3 BLACK DRAUGHTS KING
26C4 SNOWMAN WITHOUT SNOW
26C5 SUN BEHIND CLOUD
26C6 RAIN
26C7 BLACK SNOWMAN
26C8 THUNDER CLOUD AND RAIN
26C9 TURNED WHITE SHOGI PIECE
26CA TURNED BLACK SHOGI PIECE
26CB WHITE DIAMOND IN SQUARE
26CC CROSSING LANES
26CD DISABLED CAR
26CE OPHIUCHUS
26CF PICK
26D0 CAR SLIDING
26D1 HELMET WITH WHITE CROSS
26D2 CIRCLED CROSSING LANES
26D3 CHAINS
26D4 NO ENTRY
26D5 ALTERNATE ONE-WAY LEFT WAY TRAFFIC
26D6 BLACK TWO-WAY LEFT WAY TRAFFIC
26D7 WHITE TWO-WAY LEFT WAY TRAFFIC
26D8 BLACK LEFT LANE MERGE
26D9 WHITE LEFT LANE MERGE
26DA DRIVE SLOW SIGN
26DB HEAVY WHITE DOWN-POINTING TRIANGLE
26DC LEFT CLOSED ENTRY
26DD SQUARED SALTIRE
26DE FALLING DIAGONAL IN WHITE CIRCLE IN BLACK SQUARE
26DF BLACK TRUCK
26E0 RESTRICTED LEFT ENTRY-1
26E1 RESTRICTED LEFT ENTRY-2
26E2 ASTRONOMICAL SYMBOL FOR URANUS
26E3 HEAVY CIRCLE WITH STROKE AND TWO DOTS ABOVE
26E4 PENTAGRAM
26E5 RIGHT-HANDED INTERLACED PENTAGRAM
26E6 LEFT-HANDED INTERLACED PENTAGRAM
26E7 INVERTED PENTAGRAM
26E8 BLACK CROSS ON SHIELD
26E9 SHINTO SHRINE
26EA CHURCH
26EB CASTLE
26EC HISTORIC SITE
26ED GEAR WITHOUT HUB
26EE GEAR WITH HANDLES
26EF MAP SYMBOL FOR LIGHTHOUSE
26F0 MOUNTAIN
26F1 UMBRELLA ON GROUND
26F2 FOUNTAIN
26F3 FLAG IN HOLE
26F4 FERRY
26F5 SAILBOAT
26F6 SQUARE FOUR CORNERS
26F7 SKIER
26F8 ICE SKATE
26F9 PERSON WITH BALL
26FA TENT
26FB JAPANESE BANK SYMBOL
26FC HEADSTONE GRAVEYARD SYMBOL
26FD FUEL PUMP
26FE CUP ON BLACK SQUARE
26FF WHITE FLAG WITH HORIZONTAL MIDDLE BLACK STRIPE
2700 BLACK SAFETY SCISSORS
2701 UPPER BLADE SCISSORS
2702 BLACK SCISSORS
2703 LOWER BLADE SCISSORS
2704 WHITE SCISSORS
2705 WHITE HEAVY CHECK MARK
2706 TELEPHONE LOCATION SIGN
2707 TAPE DRIVE
2708 AIRPLANE
2709 ENVELOPE
270A RAISED FIST
270B RAISED HAND
270C VICTORY HAND
270D WRITING HAND
270E LOWER RIGHT PENCIL
270F PENCIL
2710 UPPER RIGHT PENCIL
2711 WHITE NIB
2712 BLACK NIB
2713 CHECK MARK
2714 HEAVY CHECK MARK
2715 MULTIPLICATION X
2716 HEAVY MULTIPLICATION X
2717 BALLOT X
2718 HEAVY BALLOT X
2719 OUTLINED GREEK CROSS
271A HEAVY GREEK CROSS
271B OPEN CENTRE CROSS
271C HEAVY OPEN CENTRE CROSS
271D LATIN CROSS
271E SHADOWED WHITE LATIN CROSS
271F OUTLINED LATIN CROSS
2720 MALTESE CROSS
2721 STAR OF DAVID
2722 FOUR TEARDROP-SPOKED ASTERISK
2723 FOUR BALLOON-SPOKED ASTERISK
2724 HEAVY FOUR BALLOON-SPOKED ASTERISK
2725 FOUR CLUB-SPOKED ASTERISK
2726 BLACK FOUR POINTED STAR
2727 WHITE FOUR POINTED STAR
2728 SPARKLES
2729 STRESS OUTLINED WHITE STAR
272A CIRCLED WHITE STAR
272B OPEN CENTRE BLACK STAR
272C BLACK CENTRE WHITE STAR
272D OUTLINED BLACK STAR
272E HEAVY OUTLINED BLACK STAR
272F PINWHEEL STAR
2730 SHADOWED WHITE STAR
2731 HEAVY ASTERISK
2732 OPEN CENTRE ASTERISK
2733 EIGHT SPOKED ASTERISK
2734 EIGHT POINTED BLACK STAR
2735 EIGHT POINTED PINWHEEL STAR
2736 SIX POINTED BLACK STAR
2737 EIGHT POINTED RECTILINEAR BLACK STAR
2738 HEAVY EIGHT POINTED RECTILINEAR BLACK STAR
2739 TWELVE POINTED BLACK STAR
273A SIXTEEN POINTED ASTERISK
273B TEARDROP-SPOKED ASTERISK
273C OPEN CENTRE TEARDROP-SPOKED ASTERISK
273D HEAVY TEARDROP-SPOKED ASTERISK
273E SIX PETALLED BLACK AND WHITE FLORETTE
273F BLACK FLORETTE
2740 WHITE FLORETTE
2741 EIGHT PETALLED OUTLINED BLACK FLORETTE
2742 CIRCLED OPEN CENTRE EIGHT POINTED STAR
2743 HEAVY TEARDROP-SPOKED PINWHEEL ASTERISK
2744 SNOWFLAKE
2745 TIGHT TRIFOLIATE SNOWFLAKE
2746 HEAVY CHEVRON SNOWFLAKE
2747 SPARKLE
2748 HEAVY SPARKLE
2749 BALLOON-SPOKED ASTERISK
274A EIGHT TEARDROP-SPOKED PROPELLER ASTERISK
274B HEAVY EIGHT TEARDROP-SPOKED PROPELLER ASTERISK
274C CROSS MARK
274D SHADOWED WHITE CIRCLE
274E NEGATIVE SQUARED CROSS MARK
274F LOWER RIGHT DROP-SHADOWED WHITE SQUARE
2750 UPPER RIGHT DROP-SHADOWED WHITE SQUARE
2751 LOWER RIGHT SHADOWED WHITE SQUARE
2752 UPPER RIGHT SHADOWED WHITE SQUARE
2753 BLACK QUESTION MARK ORNAMENT
2754 WHITE QUESTION MARK ORNAMENT
2755 WHITE EXCLAMATION MARK ORNAMENT
2756 BLACK DIAMOND MINUS WHITE X
2757 HEAVY EXCLAMATION MARK SYMBOL
2758 LIGHT VERTICAL BAR
2759 MEDIUM VERTICAL BAR
275A HEAVY VERTICAL BAR
275B HEAVY SINGLE TURNED COMMA QUOTATION MARK ORNAMENT
275C HEAVY SINGLE COMMA QUOTATION MARK ORNAMENT
275D HEAVY DOUBLE TURNED COMMA QUOTATION MARK ORNAMENT
275E HEAVY DOUBLE COMMA QUOTATION MARK ORNAMENT
275F HEAVY LOW SINGLE COMMA QUOTATION MARK ORNAMENT
2760 HEAVY LOW DOUBLE COMMA QUOTATION MARK ORNAMENT
2761 CURVED STEM PARAGRAPH SIGN ORNAMENT
2762 HEAVY EXCLAMATION MARK ORNAMENT
2763 HEAVY HEART EXCLAMATION MARK ORNAMENT
2764 HEAVY BLACK HEART
2765 ROTATED HEAVY BLACK HEART BULLET
2766 FLORAL HEART
2767 ROTATED FLORAL HEART BULLET
2768 MEDIUM LEFT PARENTHESIS ORNAMENT
2769 MEDIUM RIGHT PARENTHESIS ORNAMENT
276A MEDIUM FLATTENED LEFT PARENTHESIS ORNAMENT
276B MEDIUM FLATTENED RIGHT PARENTHESIS ORNAMENT
276C MEDIUM LEFT-POINTING ANGLE BRACKET ORNAMENT
276D MEDIUM RIGHT-POINTING ANGLE BRACKET ORNAMENT
276E HEAVY LEFT-POINTING ANGLE QUOTATION MARK ORNAMENT
276F HEAVY RIGHT-POINTING ANGLE QUOTATION MARK ORNAMENT
2770 HEAVY LEFT-POINTING ANGLE BRACKET ORNAMENT
2771 HEAVY RIGHT-POINTING ANGLE BRACKET ORNAMENT
2772 LIGHT LEFT TORTOISE SHELL BRACKET ORNAMENT
2773 LIGHT RIGHT TORTOISE SHELL BRACKET ORNAMENT
2774 MEDIUM LEFT CURLY BRACKET ORNAMENT
2775 MEDIUM RIGHT CURLY BRACKET ORNAMENT
2776 DINGBAT NEGATIVE CIRCLED DIGIT ONE
2777 DINGBAT NEGATIVE CIRCLED DIGIT TWO
2778 DINGBAT NEGATIVE CIRCLED DIGIT THREE
2779 DINGBAT NEGATIVE CIRCLED DIGIT FOUR
277A DINGBAT NEGATIVE CIRCLED DIGIT FIVE
277B DINGBAT NEGATIVE CIRCLED DIGIT SIX
277C DINGBAT NEGATIVE CIRCLED DIGIT SEVEN
277D DINGBAT NEGATIVE CIRCLED DIGIT EIGHT
277E DINGBAT NEGATIVE CIRCLED DIGIT NINE
277F DINGBAT NEGATIVE CIRCLED NUMBER TEN
2780 DINGBAT CIRCLED SANS-SERIF DIGIT ONE
2781 DINGBAT CIRCLED SANS-SERIF DIGIT TWO
2782 DINGBAT CIRCLED SANS-SERIF DIGIT THREE
2783 DINGBAT CIRCLED SANS-SERIF DIGIT FOUR
2784 DINGBAT CIRCLED SANS-SERIF DIGIT FIVE
2785 DINGBAT CIRCLED SANS-SERIF DIGIT SIX
2786 DINGBAT CIRCLED SANS-SERIF DIGIT SEVEN
2787 DINGBAT CIRCLED SANS-SERIF DIGIT EIGHT
2788 DINGBAT CIRCLED SANS-SERIF DIGIT NINE
2789 DINGBAT CIRCLED SANS-SERIF NUMBER TEN
278A DINGBAT NEGATIVE CIRCLED SANS-SERIF DIGIT ONE
278B DINGBAT NEGATIVE CIRCLED SANS-SERIF DIGIT TWO
278C DINGBAT NEGATIVE CIRCLED SANS-SERIF DIGIT THREE
278D DINGBAT NEGATIVE CIRCLED SANS-SERIF DIGIT FOUR
278E DINGBAT NEGATIVE CIRCLED SANS-SERIF DIGIT FIVE
278F DINGBAT NEGATIVE CIRCLED SANS-SERIF DIGIT SIX
2790 DINGBAT NEGATIVE CIRCLED SANS-SERIF DIGIT SEVEN
2791 DINGBAT NEGATIVE CIRCLED SANS-SERIF DIGIT EIGHT
2792 DINGBAT NEGATIVE CIRCLED SANS-SERIF DIGIT NINE
2793 DINGBAT NEGATIVE CIRCLED SANS-SERIF NUMBER TEN
2794 HEAVY WIDE-HEADED RIGHTWARDS ARROW
2795 HEAVY PLUS SIGN
2796 HEAVY MINUS SIGN
2797 HEAVY DIVISION SIGN
2798 HEAVY SOUTH EAST ARROW
2799 HEAVY RIGHTWARDS ARROW
279A HEAVY NORTH EAST ARROW
279B DRAFTING POINT RIGHTWARDS ARROW
279C HEAVY ROUND-TIPPED RIGHTWARDS ARROW
279D TRIANGLE-HEADED RIGHTWARDS ARROW
279E HEAVY TRIANGLE-HEADED RIGHTWARDS ARROW
279F DASHED TRIANGLE-HEADED RIGHTWARDS ARROW
27A0 HEAVY DASHED TRIANGLE-HEADED RIGHTWARDS ARROW
27A1 BLACK RIGHTWARDS ARROW
27A2 THREE-D TOP-LIGHTED RIGHTWARDS ARROWHEAD
27A3 THREE-D BOTTOM-LIGHTED RIGHTWARDS ARROWHEAD
27A4 BLACK RIGHTWARDS ARROWHEAD
27A5 HEAVY BLACK CURVED DOWNWARDS AND RIGHTWARDS ARROW
27A6 HEAVY BLACK CURVED UPWARDS AND RIGHTWARDS ARROW
27A7 SQUAT BLACK RIGHTWARDS ARROW
27A8 HEAVY CONCAVE-POINTED BLACK RIGHTWARDS ARROW
27A9 RIGHT-SHADED WHITE RIGHTWARDS ARROW
27AA LEFT-SHADED WHITE RIGHTWARDS ARROW
27AB BACK-TILTED SHADOWED WHITE RIGHTWARDS ARROW
27AC FRONT-TILTED SHADOWED WHITE RIGHTWARDS ARROW
27AD HEAVY LOWER RIGHT-SHADOWED WHITE RIGHTWARDS ARROW
27AE HEAVY UPPER RIGHT-SHADOWED WHITE RIGHTWARDS ARROW
27AF NOTCHED LOWER RIGHT-SHADOWED WHITE RIGHTWARDS ARROW
27B0 CURLY LOOP
27B1 NOTCHED UPPER RIGHT-SHADOWED WHITE RIGHTWARDS ARROW
27B2 CIRCLED HEAVY WHITE RIGHTWARDS ARROW
27B3 WHITE-FEATHERED RIGHTWARDS ARROW
27B4 BLACK-FEATHERED SOUTH EAST ARROW
27B5 BLACK-FEATHERED RIGHTWARDS ARROW
27B6 BLACK-FEATHERED NORTH EAST ARROW
27B7 HEAVY BLACK-FEATHERED SOUTH EAST ARROW
27B8 HEAVY BLACK-FEATHERED RIGHTWARDS ARROW
27B9 HEAVY BLACK-FEATHERED NORTH EAST ARROW
27BA TEARDROP-BARBED RIGHTWARDS ARROW
27BB HEAVY TEARDROP-SHANKED RIGHTWARDS ARROW
27BC WEDGE-TAILED RIGHTWARDS ARROW
27BD HEAVY WEDGE-TAILED RIGHTWARDS ARROW
27BE OPEN-OUTLINED RIGHTWARDS ARROW
27BF DOUBLE CURLY LOOP
3000 IDEOGRAPHIC SPACE
3001 IDEOGRAPHIC COMMA
3002 IDEOGRAPHIC FULL STOP
3003 DITTO MARK
3004 JAPANESE INDUSTRIAL STANDARD SYMBOL
3005 IDEOGRAPHIC ITERATION MARK
3006 IDEOGRAPHIC CLOSING MARK
3007 IDEOGRAPHIC NUMBER ZERO
3008 LEFT ANGLE BRACKET
3009 RIGHT ANGLE BRACKET
300A LEFT DOUBLE ANGLE BRACKET
300B RIGHT DOUBLE ANGLE BRACKET
300C LEFT CORNER BRACKET
300D RIGHT CORNER BRACKET
300E LEFT WHITE CORNER BRACKET
300F RIGHT WHITE CORNER BRACKET
3010 LEFT BLACK LENTICULAR BRACKET
3011 RIGHT BLACK LENTICULAR BRACKET
3012 POSTAL MARK
3013 GETA MARK
3014 LEFT TORTOISE SHELL BRACKET
3015 RIGHT TORTOISE SHELL BRACKET
3016 LEFT WHITE LENTICULAR BRACKET
3017 RIGHT WHITE LENTICULAR BRACKET
3018 LEFT WHITE TORTOISE SHELL BRACKET
3019 RIGHT WHITE TORTOISE SHELL BRACKET
301A LEFT WHITE SQUARE BRACKET
301B RIGHT WHITE SQUARE BRACKET
301C WAVE DASH
301D REVERSED DOUBLE PRIME QUOTATION MARK
301E DOUBLE PRIME QUOTATION MARK
301F LOW DOUBLE PRIME QUOTATION MARK
3020 POSTAL MARK FACE
3021 HANGZHOU NUMERAL ONE
3022 HANGZHOU NUMERAL TWO
3023 HANGZHOU NUMERAL THREE
3024 HANGZHOU NUMERAL FOUR
3025 HANGZHOU NUMERAL FIVE
3026 HANGZHOU NUMERAL SIX
3027 HANGZHOU NUMERAL SEVEN
3028 HANGZHOU NUMERAL EIGHT
3029 HANGZHOU NUMERAL NINE
302A IDEOGRAPHIC LEVEL TONE MARK
302B IDEOGRAPHIC RISING TONE MARK
302C IDEOGRAPHIC DEPARTING TONE MARK
302D IDEOGRAPHIC ENTERING TONE MARK
302E HANGUL SINGLE DOT TONE MARK
302F HANGUL DOUBLE DOT TONE MARK
3030 WAVY DASH
3031 VERTICAL KANA REPEAT MARK
3032 VERTICAL KANA REPEAT WITH VOICED SOUND MARK
3033 VERTICAL KANA REPEAT MARK UPPER HALF
3034 VERTICAL KANA REPEAT WITH VOICED SOUND MARK UPPER HALF
3035 VERTICAL KANA REPEAT MARK LOWER HALF
3036 CIRCLED POSTAL MARK
3037 IDEOGRAPHIC TELEGRAPH LINE FEED SEPARATOR SYMBOL
3038 HANGZHOU NUMERAL TEN
3039 HANGZHOU NUMERAL TWENTY
303A HANGZHOU NUMERAL THIRTY
303B VERTICAL IDEOGRAPHIC ITERATION MARK
303C MASU MARK
303D PART ALTERNATION MARK
303E IDEOGRAPHIC VARIATION INDICATOR
303F IDEOGRAPHIC HALF FILL SPACE
3041 HIRAGANA LETTER SMALL A
3042 HIRAGANA LETTER A
3043 HIRAGANA LETTER SMALL I
3044 HIRAGANA LETTER I
3045 HIRAGANA LETTER SMALL U
3046 HIRAGANA LETTER U
3047 HIRAGANA LETTER SMALL E
3048 HIRAGANA LETTER E
3049 HIRAGANA LETTER SMALL O
304A HIRAGANA LETTER O
304B HIRAGANA LETTER KA
304C HIRAGANA LETTER GA
304D HIRAGANA LETTER KI
304E HIRAGANA LETTER GI
304F HIRAGANA LETTER KU
3050 HIRAGANA LETTER GU
3051 HIRAGANA LETTER KE
3052 HIRAGANA LETTER GE
3053 HIRAGANA LETTER KO
3054 HIRAGANA LETTER GO
3055 HIRAGANA LETTER SA
3056 HIRAGANA LETTER ZA
3057 HIRAGANA LETTER SI
3058 HIRAGANA LETTER ZI
3059 HIRAGANA LETTER SU
305A HIRAGANA LETTER ZU
305B HIRAGANA LETTER SE
305C HIRAGANA LETTER ZE
305D HIRAGANA LETTER SO
305E HIRAGANA LETTER ZO
305F HIRAGANA LETTER TA
3060 HIRAGANA LETTER DA
3061 HIRAGANA LETTER TI
3062 HIRAGANA LETTER DI
3063 HIRAGANA LETTER SMALL TU
3064 HIRAGANA LETTER TU
3065 HIRAGANA LETTER DU
3066 HIRAGANA LETTER TE
3067 HIRAGANA LETTER DE
3068 HIRAGANA LETTER TO
3069 HIRAGANA LETTER DO
306A HIRAGANA LETTER NA
306B HIRAGANA LETTER NI
306C HIRAGANA LETTER NU
306D HIRAGANA LETTER NE
306E HIRAGANA LETTER NO
306F HIRAGANA LETTER HA
3070 HIRAGANA LETTER BA
3071 HIRAGANA LETTER PA
3072 HIRAGANA LETTER HI
3073 HIRAGANA LETTER BI
3074 HIRAGANA LETTER PI
3075 HIRAGANA LETTER HU
3076 HIRAGANA LETTER BU
3077 HIRAGANA LETTER PU
3078 HIRAGANA LETTER HE
3079 HIRAGANA LETTER BE
307A HIRAGANA LETTER PE
307B HIRAGANA LETTER HO
307C HIRAGANA LETTER BO
307D HIRAGANA LETTER PO
307E HIRAGANA LETTER MA
307F HIRAGANA LETTER MI
3080 HIRAGANA LETTER MU
3081 HIRAGANA LETTER ME
3082 HIRAGANA LETTER MO
3083 HIRAGANA LETTER SMALL YA
3084 HIRAGANA LETTER YA
3085 HIRAGANA LETTER SMALL YU
3086 HIRAGANA LETTER YU
3087 HIRAGANA LETTER SMALL YO
3088 HIRAGANA LETTER YO
3089 HIRAGANA LETTER RA
308A HIRAGANA LETTER RI
308B HIRAGANA LETTER RU
308C HIRAGANA LETTER RE
308D HIRAGANA LETTER RO
308E HIRAGANA LETTER SMALL WA
308F HIRAGANA LETTER WA
3090 HIRAGANA LETTER WI
3091 HIRAGANA LETTER WE
3092 HIRAGANA LETTER WO
3093 HIRAGANA LETTER N
3094 HIRAGANA LETTER VU
3095 HIRAGANA LETTER SMALL KA
3096 HIRAGANA LETTER SMALL KE
3099 COMBINING KATAKANA-HIRAGANA VOICED SOUND MARK
309A COMBINING KATAKANA-HIRAGANA SEMI-VOICED SOUND MARK
309B KATAKANA-HIRAGANA VOICED SOUND MARK
309C KATAKANA-HIRAGANA SEMI-VOICED SOUND MARK
309D HIRAGANA ITERATION MARK
309E HIRAGANA VOICED ITERATION MARK
309F HIRAGANA DIGRAPH YORI
30A0 KATAKANA-HIRAGANA DOUBLE HYPHEN
30A1 KATAKANA LETTER SMALL A
30A2 KATAKANA LETTER A
30A3 KATAKANA LETTER SMALL I
30A4 KATAKANA LETTER I
30A5 KATAKANA LETTER SMALL U
30A6 KATAKANA LETTER U
30A7 KATAKANA LETTER SMALL E
30A8 KATAKANA LETTER E
30A9 KATAKANA LETTER SMALL O
30AA KATAKANA LETTER O
30AB KATAKANA LETTER KA
30AC KATAKANA LETTER GA
30AD KATAKANA LETTER KI
30AE KATAKANA LETTER GI
30AF KATAKANA LETTER KU
30B0 KATAKANA LETTER GU
30B1 KATAKANA LETTER KE
30B2 KATAKANA LETTER GE
30B3 KATAKANA LETTER KO
30B4 KATAKANA LETTER GO
30B5 KATAKANA LETTER SA
30B6 KATAKANA LETTER ZA
30B7 KATAKANA LETTER SI
30B8 KATAKANA LETTER ZI
30B9 KATAKANA LETTER SU
30BA KATAKANA LETTER ZU
30BB KATAKANA LETTER SE
30BC KATAKANA LETTER ZE
30BD KATAKANA LETTER SO
30BE KATAKANA LETTER ZO
30BF KATAKANA LETTER TA
30C0 KATAKANA LETTER DA
30C1 KATAKANA LETTER TI
30C2 KATAKANA LETTER DI
30C3 KATAKANA LETTER SMALL TU
30C4 KATAKANA LETTER TU
30C5 KATAKANA LETTER DU
30C6 KATAKANA LETTER TE
30C7 KATAKANA LETTER DE
30C8 KATAKANA LETTER TO
30C9 KATAKANA LETTER DO
30CA KATAKANA LETTER NA
30CB KATAKANA LETTER NI
30CC KATAKANA LETTER NU
30CD KATAKANA LETTER NE
30CE KATAKANA LETTER NO
30CF KATAKANA LETTER HA
30D0 KATAKANA LETTER BA
30D1 KATAKANA LETTER PA
30D2 KATAKANA LETTER HI
30D3 KATAKANA LETTER BI
30D4 KATAKANA LETTER PI
30D5 KATAKANA LETTER HU
30D6 KATAKANA LETTER BU
30D7 KATAKANA LETTER PU
30D8 KATAKANA LETTER HE
30D9 KATAKANA LETTER BE
30DA KATAKANA LETTER PE
30DB KATAKANA LETTER HO
30DC KATAKANA LETTER BO
30DD KATAKANA LETTER PO
30DE KATAKANA LETTER MA
30DF KATAKANA LETTER MI
30E0 KATAKANA LETTER MU
30E1 KATAKANA LETTER ME
30E2 KATAKANA LETTER MO
30E3 KATAKANA LETTER SMALL YA
30E4 KATAKANA LETTER YA
30E5 KATAKANA LETTER SMALL YU
30E6 KATAKANA LETTER YU
30E7 KATAKANA LETTER SMALL YO
30E8 KATAKANA LETTER YO
30E9 KATAKANA LETTER RA
30EA KATAKANA LETTER RI
30EB KATAKANA LETTER RU
30EC KATAKANA LETTER RE
30ED KATAKANA LETTER RO
30EE KATAKANA LETTER SMALL WA
30EF KATAKANA LETTER WA
30F0 KATAKANA LETTER WI
30F1 KATAKANA LETTER WE
30F2 KATAKANA LETTER WO
30F3 KATAKANA LETTER N
30F4 KATAKANA LETTER VU
30F5 KATAKANA LETTER SMALL KA
30F6 KATAKANA LETTER SMALL KE
30F7 KATAKANA LETTER VA
30F8 KATAKANA LETTER VI
30F9 KATAKANA LETTER VE
30FA KATAKANA LETTER VO
30FB KATAKANA MIDDLE DOT
30FC KATAKANA-HIRAGANA PROLONGED SOUND MARK
30FD KATAKANA ITERATION MARK
30FE KATAKANA VOICED ITERATION MARK
30FF KATAKANA DIGRAPH KOTO
FB00 LATIN SMALL LIGATURE FF
FB01 LATIN SMALL LIGATURE FI
FB02 LATIN SMALL LIGATURE FL
FB03 LATIN SMALL LIGATURE FFI
FB04 LATIN SMALL LIGATURE FFL
FB05 LATIN SMALL LIGATURE LONG S T
FB06 LATIN SMALL LIGATURE ST
FE00 VARIATION SELECTOR-1
FE01 VARIATION SELECTOR-2
FE02 VARIATION SELECTOR-3
FE03 VARIATION SELECTOR-4
FE04 VARIATION SELECTOR-5
FE05 VARIATION SELECTOR-6
FE06 VARIATION SELECTOR-7
FE07 VARIATION SELECTOR-8
FE08 VARIATION SELECTOR-9
FE09 VARIATION SELECTOR-10
FE0A VARIATION SELECTOR-11
FE0B VARIATION SELECTOR-12
FE0C VARIATION SELECTOR-13
FE0D VARIATION SELECTOR-14
FE0E VARIATION SELECTOR-15
FE0F VARIATION SELECTOR-16
FEFF ZERO WIDTH NO-BREAK SPACE
FFFC OBJECT REPLACEMENT CHARACTER
FFFD REPLACEMENT CHARACTER
1F300 CYCLONE
1F301 FOGGY
1F302 CLOSED UMBRELLA
1F303 NIGHT WITH STARS
1F304 SUNRISE OVER MOUNTAINS
1F305 SUNRISE
1F306 CITYSCAPE AT DUSK
1F307 SUNSET OVER BUILDINGS
1F308 RAINBOW
1F309 BRIDGE AT NIGHT
1F30A WATER WAVE
1F30B VOLCANO
1F30C MILKY WAY
1F30D EARTH GLOBE EUROPE-AFRICA
1F30E EARTH GLOBE AMERICAS
1F30F EARTH GLOBE ASIA-AUSTRALIA
1F310 GLOBE WITH MERIDIANS
1F311 NEW MOON SYMBOL
1F312 WAXING CRESCENT MOON SYMBOL
1F313 FIRST QUARTER MOON SYMBOL
1F314 WAXING GIBBOUS MOON SYMBOL
1F315 FULL MOON SYMBOL
1F316 WANING GIBBOUS MOON SYMBOL
1F317 LAST QUARTER MOON SYMBOL
1F318 WANING CRESCENT MOON SYMBOL
1F319 CRESCENT MOON
1F31A NEW MOON WITH FACE
1F31B FIRST QUARTER MOON WITH FACE
1F31C LAST QUARTER MOON WITH FACE
1F31D FULL MOON WITH FACE
1F31E SUN WITH FACE
1F31F GLOWING STAR
1F320 SHOOTING STAR
1F321 THERMOMETER
1F322 BLACK DROPLET
1F323 WHITE SUN
1F324 WHITE SUN WITH SMALL CLOUD
1F325 WHITE SUN BEHIND CLOUD
1F326 WHITE SUN BEHIND CLOUD WITH RAIN
1F327 CLOUD WITH RAIN
1F328 CLOUD WITH SNOW
1F329 CLOUD WITH LIGHTNING
1F32A CLOUD WITH TORNADO
1F32B FOG
1F32C WIND BLOWING FACE
1F32D HOT DOG
1F32E TACO
1F32F BURRITO
1F330 CHESTNUT
1F331 SEEDLING
1F332 EVERGREEN TREE
1F333 DECIDUOUS TREE
1F334 PALM TREE
1F335 CACTUS
1F336 HOT PEPPER
1F337 TULIP
1F338 CHERRY BLOSSOM
1F339 ROSE
1F33A HIBISCUS
1F33B SUNFLOWER
1F33C BLOSSOM
1F33D EAR OF MAIZE
1F33E EAR OF RICE
1F33F HERB
1F340 FOUR LEAF CLOVER
1F341 MAPLE LEAF
1F342 FALLEN LEAF
1F343 LEAF FLUTTERING IN WIND
1F344 MUSHROOM
1F345 TOMATO
1F346 AUBERGINE
1F347 GRAPES
1F348 MELON
1F349 WATERMELON
1F34A TANGERINE
1F34B LEMON
1F34C BANANA
1F34D PINEAPPLE
1F34E RED APPLE
1F34F GREEN APPLE
1F350 PEAR
1F351 PEACH
1F352 CHERRIES
1F353 STRAWBERRY
1F354 HAMBURGER
1F355 SLICE OF PIZZA
1F356 MEAT ON BONE
1F357 POULTRY LEG
1F358 RICE CRACKER
1F359 RICE BALL
1F35A COOKED RICE
1F35B CURRY AND RICE
1F35C STEAMING BOWL
1F35D SPAGHETTI
1F35E BREAD
1F35F FRENCH FRIES
1F360 ROASTED SWEET POTATO
1F361 DANGO
1F362 ODEN
1F363 SUSHI
1F364 FRIED SHRIMP
1F365 FISH CAKE WITH SWIRL DESIGN
1F366 SOFT ICE CREAM
1F367 SHAVED ICE
1F368 ICE CREAM
1F369 DOUGHNUT
1F36A COOKIE
1F36B CHOCOLATE BAR
1F36C CANDY
1F36D LOLLIPOP
1F36E CUSTARD
1F36F HONEY POT
1F370 SHORTCAKE
1F371 BENTO BOX
1F372 POT OF FOOD
1F373 COOKING
1F374 FORK AND KNIFE
1F375 TEACUP WITHOUT HANDLE
1F376 SAKE BOTTLE AND CUP
1F377 WINE GLASS
1F378 COCKTAIL GLASS
1F379 TROPICAL DRINK
1F37A BEER MUG
1F37B CLINKING BEER MUGS
1F37C BABY BOTTLE
1F37D FORK AND KNIFE WITH PLATE
1F37E BOTTLE WITH POPPING CORK
1F37F POPCORN
1F380 RIBBON
1F381 WRAPPED PRESENT
1F382 BIRTHDAY CAKE
1F383 JACK-O-LANTERN
1F384 CHRISTMAS TREE
1F385 FATHER CHRISTMAS
1F386 FIREWORKS
1F387 FIREWORK SPARKLER
1F388 BALLOON
1F389 PARTY POPPER
1F38A CONFETTI BALL
1F38B TANABATA TREE
1F38C CROSSED FLAGS
1F38D PINE DECORATION
1F38E JAPANESE DOLLS
1F38F CARP STREAMER
1F390 WIND CHIME
1F391 MOON VIEWING CEREMONY
1F392 SCHOOL SATCHEL
1F393 GRADUATION CAP
1F394 HEART WITH TIP ON THE LEFT
1F395 BOUQUET OF FLOWERS
1F396 MILITARY MEDAL
1F397 REMINDER RIBBON
1F398 MUSICAL KEYBOARD WITH JACKS
1F399 STUDIO MICROPHONE
1F39A LEVEL SLIDER
1F39B CONTROL KNOBS
1F39C BEAMED ASCENDING MUSICAL NOTES
1F39D BEAMED DESCENDING MUSICAL NOTES
1F39E FILM FRAMES
1F39F ADMISSION TICKETS
1F3A0 CAROUSEL HORSE
1F3A1 FERRIS WHEEL
1F3A2 ROLLER COASTER
1F3A3 FISHING POLE AND FISH
1F3A4 MICROPHONE
1F3A5 MOVIE CAMERA
1F3A6 CINEMA
1F3A7 HEADPHONE
1F3A8 ARTIST PALETTE
1F3A9 TOP HAT
1F3AA CIRCUS TENT
1F3AB TICKET
1F3AC CLAPPER BOARD
1F3AD PERFORMING ARTS
1F3AE VIDEO GAME
1F3AF DIRECT HIT
1F3B0 SLOT MACHINE
1F3B1 BILLIARDS
1F3B2 GAME DIE
1F3B3 BOWLING
1F3B4 FLOWER PLAYING CARDS
1F3B5 MUSICAL NOTE
1F3B6 MULTIPLE MUSICAL NOTES
1F3B7 SAXOPHONE
1F3B8 GUITAR
1F3B9 MUSICAL KEYBOARD
1F3BA TRUMPET
1F3BB VIOLIN
1F3BC MUSICAL SCORE
1F3BD RUNNING SHIRT WITH SASH
1F3BE TENNIS RACQUET AND BALL
1F3BF SKI AND SKI BOOT
1F3C0 BASKETBALL AND HOOP
1F3C1 CHEQUERED FLAG
1F3C2 SNOWBOARDER
1F3C3 RUNNER
1F3C4 SURFER
1F3C5 SPORTS MEDAL
1F3C6 TROPHY
1F3C7 HORSE RACING
1F3C8 AMERICAN FOOTBALL
1F3C9 RUGBY FOOTBALL
1F3CA SWIMMER
1F3CB WEIGHT LIFTER
1F3CC GOLFER
1F3CD RACING MOTORCYCLE
1F3CE RACING CAR
1F3CF CRICKET BAT AND BALL
1F3D0 VOLLEYBALL
1F3D1 FIELD HOCKEY STICK AND BALL
1F3D2 ICE HOCKEY STICK AND PUCK
1F3D3 TABLE TENNIS PADDLE AND BALL
1F3D4 SNOW CAPPED MOUNTAIN
1F3D5 CAMPING
1F3D6 BEACH WITH UMBRELLA
1F3D7 BUILDING CONSTRUCTION
1F3D8 HOUSE BUILDINGS
1F3D9 CITYSCAPE
1F3DA DERELICT HOUSE BUILDING
1F3DB CLASSICAL BUILDING
1F3DC DESERT
1F3DD DESERT ISLAND
1F3DE NATIONAL PARK
1F3DF STADIUM
1F3E0 HOUSE BUILDING
1F3E1 HOUSE WITH GARDEN
1F3E2 OFFICE BUILDING
1F3E3 JAPANESE POST OFFICE
1F3E4 EUROPEAN POST OFFICE
1F3E5 HOSPITAL
1F3E6 BANK
1F3E7 AUTOMATED TELLER MACHINE
1F3E8 HOTEL
1F3E9 LOVE HOTEL
1F3EA CONVENIENCE STORE
1F3EB SCHOOL
1F3EC DEPARTMENT STORE
1F3ED FACTORY
1F3EE IZAKAYA LANTERN
1F3EF JAPANESE CASTLE
1F3F0 EUROPEAN CASTLE
1F3F1 WHITE PENNANT
1F3F2 BLACK PENNANT
1F3F3 WAVING WHITE FLAG
1F3F4 WAVING BLACK FLAG
1F3F5 ROSETTE
1F3F6 BLACK ROSETTE
1F3F7 LABEL
1F3F8 BADMINTON RACQUET AND SHUTTLECOCK
1F3F9 BOW AND ARROW
1F3FA AMPHORA
1F3FB EMOJI MODIFIER FITZPATRICK TYPE-1-2
1F3FC EMOJI MODIFIER FITZPATRICK TYPE-3
1F3FD EMOJI MODIFIER FITZPATRICK TYPE-4
1F3FE EMOJI MODIFIER FITZPATRICK TYPE-5
1F3FF EMOJI MODIFIER FITZPATRICK TYPE-6
1F400 RAT
1F401 MOUSE
1F402 OX
1F403 WATER BUFFALO
1F404 COW
1F405 TIGER
1F406 LEOPARD
1F407 RABBIT
1F408 CAT
1F409 DRAGON
1F40A CROCODILE
1F40B WHALE
1F40C SNAIL
1F40D SNAKE
1F40E HORSE
1F40F RAM
1F410 GOAT
1F411 SHEEP
1F412 MONKEY
1F413 ROOSTER
1F414 CHICKEN
1F415 DOG
1F416 PIG
1F417 BOAR
1F418 ELEPHANT
1F419 OCTOPUS
1F41A SPIRAL SHELL
1F41B BUG
1F41C ANT
1F41D HONEYBEE
1F41E LADY BEETLE
1F41F FISH
1F420 TROPICAL FISH
1F421 BLOWFISH
1F422 TURTLE
1F423 HATCHING CHICK
1F424 BABY CHICK
1F425 FRONT-FACING BABY CHICK
1F426 BIRD
1F427 PENGUIN
1F428 KOALA
1F429 POODLE
1F42A DROMEDARY CAMEL
1F42B BACTRIAN CAMEL
1F42C DOLPHIN
1F42D MOUSE FACE
1F42E COW FACE
1F42F TIGER FACE
1F430 RABBIT FACE
1F431 CAT FACE
1F432 DRAGON FACE
1F433 SPOUTING WHALE
1F434 HORSE FACE
1F435 MONKEY FACE
1F436 DOG FACE
1F437 PIG FACE
1F438 FROG FACE
1F439 HAMSTER FACE
1F43A WOLF FACE
1F43B BEAR FACE
1F43C PANDA FACE
1F43D PIG NOSE
1F43E PAW PRINTS
1F43F CHIPMUNK
1F440 EYES
1F441 EYE
1F442 EAR
1F443 NOSE
1F444 MOUTH
1F445 TONGUE
1F446 WHITE UP POINTING BACKHAND INDEX
1F447 WHITE DOWN POINTING BACKHAND INDEX
1F448 WHITE LEFT POINTING BACKHAND INDEX
1F449 WHITE RIGHT POINTING BACKHAND INDEX
1F44A FISTED HAND SIGN
1F44B WAVING HAND SIGN
1F44C OK HAND SIGN
1F44D THUMBS UP SIGN
1F44E THUMBS DOWN SIGN
1F44F CLAPPING HANDS SIGN
1F450 OPEN HANDS SIGN
1F451 CROWN
1F452 WOMANS HAT
1F453 EYEGLASSES
1F454 NECKTIE
1F455 T-SHIRT
1F456 JEANS
1F457 DRESS
1F458 KIMONO
1F459 BIKINI
1F45A WOMANS CLOTHES
1F45B PURSE
1F45C HANDBAG
1F45D POUCH
1F45E MANS SHOE
1F45F ATHLETIC SHOE
1F460 HIGH-HEELED SHOE
1F461 WOMANS SANDAL
1F462 WOMANS BOOTS
1F463 FOOTPRINTS
1F464 BUST IN SILHOUETTE
1F465 BUSTS IN SILHOUETTE
1F466 BOY
1F467 GIRL
1F468 MAN
1F469 WOMAN
1F46A FAMILY
1F46B MAN AND WOMAN HOLDING HANDS
1F46C TWO MEN HOLDING HANDS
1F46D TWO WOMEN HOLDING HANDS
1F46E POLICE OFFICER
1F46F WOMAN WITH BUNNY EARS
1F470 BRIDE WITH VEIL
1F471 PERSON WITH BLOND HAIR
1F472 MAN WITH GUA PI MAO
1F473 MAN WITH TURBAN
1F474 OLDER MAN
1F475 OLDER WOMAN
1F476 BABY
1F477 CONSTRUCTION WORKER
1F478 PRINCESS
1F479 JAPANESE OGRE
1F47A JAPANESE GOBLIN
1F47B GHOST
1F47C BABY ANGEL
1F47D EXTRATERRESTRIAL ALIEN
1F47E ALIEN MONSTER
1F47F IMP
1F480 SKULL
1F481 INFORMATION DESK PERSON
1F482 GUARDSMAN
1F483 DANCER
1F484 LIPSTICK
1F485 NAIL POLISH
1F486 FACE MASSAGE
1F487 HAIRCUT
1F488 BARBER POLE
1F489 SYRINGE
1F48A PILL
1F48B KISS MARK
1F48C LOVE LETTER
1F48D RING
1F48E GEM STONE
1F48F KISS
1F490 BOUQUET
1F491 COUPLE WITH HEART
1F492 WEDDING
1F493 BEATING HEART
1F494 BROKEN HEART
1F495 TWO HEARTS
1F496 SPARKLING HEART
1F497 GROWING HEART
1F498 HEART WITH ARROW
1F499 BLUE HEART
1F49A GREEN HEART
1F49B YELLOW HEART
1F49C PURPLE HEART
1F49D HEART WITH RIBBON
1F49E REVOLVING HEARTS
1F49F HEART DECORATION
1F4A0 DIAMOND SHAPE WITH A DOT INSIDE
1F4A1 ELECTRIC LIGHT BULB
1F4A2 ANGER SYMBOL
1F4A3 BOMB
1F4A4 SLEEPING SYMBOL
1F4A5 COLLISION SYMBOL
1F4A6 SPLASHING SWEAT SYMBOL
1F4A7 DROPLET
1F4A8 DASH SYMBOL
1F4A9 PILE OF POO
1F4AA FLEXED BICEPS
1F4AB DIZZY SYMBOL
1F4AC SPEECH BALLOON
1F4AD THOUGHT BALLOON
1F4AE WHITE FLOWER
1F4AF HUNDRED POINTS SYMBOL
1F4B0 MONEY BAG
1F4B1 CURRENCY EXCHANGE
1F4B2 HEAVY DOLLAR SIGN
1F4B3 CREDIT CARD
1F4B4 BANKNOTE WITH YEN SIGN
1F4B5 BANKNOTE WITH DOLLAR SIGN
1F4B6 BANKNOTE WITH EURO SIGN
1F4B7 BANKNOTE WITH POUND SIGN
1F4B8 MONEY WITH WINGS
1F4B9 CHART WITH UPWARDS TREND AND YEN SIGN
1F4BA SEAT
1F4BB PERSONAL COMPUTER
1F4BC BRIEFCASE
1F4BD MINIDISC
1F4BE FLOPPY DISK
1F4BF OPTICAL DISC
1F4C0 DVD
1F4C1 FILE FOLDER
1F4C2 OPEN FILE FOLDER
1F4C3 PAGE WITH CURL
1F4C4 PAGE FACING UP
1F4C5 CALENDAR
1F4C6 TEAR-OFF CALENDAR
1F4C7 CARD INDEX
1F4C8 CHART WITH UPWARDS TREND
1F4C9 CHART WITH DOWNWARDS TREND
1F4CA BAR CHART
1F4CB CLIPBOARD
1F4CC PUSHPIN
1F4CD ROUND PUSHPIN
1F4CE PAPERCLIP
1F4CF STRAIGHT RULER
1F4D0 TRIANGULAR RULER
1F4D1 BOOKMARK TABS
1F4D2 LEDGER
1F4D3 NOTEBOOK
1F4D4 NOTEBOOK WITH DECORATIVE COVER
1F4D5 CLOSED BOOK
1F4D6 OPEN BOOK
1F4D7 GREEN BOOK
1F4D8 BLUE BOOK
1F4D9 ORANGE BOOK
1F4DA BOOKS
1F4DB NAME BADGE
1F4DC SCROLL
1F4DD MEMO
1F4DE TELEPHONE RECEIVER
1F4DF PAGER
1F4E0 FAX MACHINE
1F4E1 SATELLITE ANTENNA
1F4E2 PUBLIC ADDRESS LOUDSPEAKER
1F4E3 CHEERING MEGAPHONE
1F4E4 OUTBOX TRAY
1F4E5 INBOX TRAY
1F4E6 PACKAGE
1F4E7 E-MAIL SYMBOL
1F4E8 INCOMING ENVELOPE
1F4E9 ENVELOPE WITH DOWNWARDS ARROW ABOVE
1F4EA CLOSED MAILBOX WITH LOWERED FLAG
1F4EB CLOSED MAILBOX WITH RAISED FLAG
1F4EC OPEN MAILBOX WITH RAISED FLAG
1F4ED OPEN MAILBOX WITH LOWERED FLAG
1F4EE POSTBOX
1F4EF POSTAL HORN
1F4F0 NEWSPAPER
1F4F1 MOBILE PHONE
1F4F2 MOBILE PHONE WITH RIGHTWARDS ARROW AT LEFT
1F4F3 VIBRATION MODE
1F4F4 MOBILE PHONE OFF
1F4F5 NO MOBILE PHONES
1F4F6 ANTENNA WITH BARS
1F4F7 CAMERA
1F4F8 CAMERA WITH FLASH
1F4F9 VIDEO CAMERA
1F4FA TELEVISION
1F4FB RADIO
1F4FC VIDEOCASSETTE
1F4FD FILM PROJECTOR
1F4FE PORTABLE STEREO
1F4FF PRAYER BEADS
1F500 TWISTED RIGHTWARDS ARROWS
1F501 CLOCKWISE RIGHTWARDS AND LEFTWARDS OPEN CIRCLE ARROWS
1F502 CLOCKWISE RIGHTWARDS AND LEFTWARDS OPEN CIRCLE ARROWS WITH CIRCLED ONE OVERLAY
1F503 CLOCKWISE DOWNWARDS AND UPWARDS OPEN CIRCLE ARROWS
1F504 ANTICLOCKWISE DOWNWARDS AND UPWARDS OPEN CIRCLE ARROWS
1F505 LOW BRIGHTNESS SYMBOL
1F506 HIGH BRIGHTNESS SYMBOL
1F507 SPEAKER WITH CANCELLATION STROKE
1F508 SPEAKER
1F509 SPEAKER WITH ONE SOUND WAVE
1F50A SPEAKER WITH THREE SOUND WAVES
1F50B BATTERY
1F50C ELECTRIC PLUG
1F50D LEFT-POINTING MAGNIFYING GLASS
1F50E RIGHT-POINTING MAGNIFYING GLASS
1F50F LOCK WITH INK PEN
1F510 CLOSED LOCK WITH KEY
1F511 KEY
1F512 LOCK
1F513 OPEN LOCK
1F514 BELL
1F515 BELL WITH CANCELLATION STROKE
1F516 BOOKMARK
1F517 LINK SYMBOL
1F518 RADIO BUTTON
1F519 BACK WITH LEFTWARDS ARROW ABOVE
1F51A END WITH LEFTWARDS ARROW ABOVE
1F51B ON WITH EXCLAMATION MARK WITH LEFT RIGHT ARROW ABOVE
1F51C SOON WITH RIGHTWARDS ARROW ABOVE
1F51D TOP WITH UPWARDS ARROW ABOVE
1F51E NO ONE UNDER EIGHTEEN SYMBOL
1F51F KEYCAP TEN
1F520 INPUT SYMBOL FOR LATIN CAPITAL LETTERS
1F521 INPUT SYMBOL FOR LATIN SMALL LETTERS
1F522 INPUT SYMBOL FOR NUMBERS
1F523 INPUT SYMBOL FOR SYMBOLS
1F524 INPUT SYMBOL FOR LATIN LETTERS
1F525 FIRE
1F526 ELECTRIC TORCH
1F527 WRENCH
1F528 HAMMER
1F529 NUT AND BOLT
1F52A HOCHO
1F52B PISTOL
1F52C MICROSCOPE
1F52D TELESCOPE
1F52E CRYSTAL BALL
1F52F SIX POINTED STAR WITH MIDDLE DOT
1F530 JAPANESE SYMBOL FOR BEGINNER
1F531 TRIDENT EMBLEM
1F532 BLACK SQUARE BUTTON
1F533 WHITE SQUARE BUTTON
1F534 LARGE RED CIRCLE
1F535 LARGE BLUE CIRCLE
1F536 LARGE ORANGE DIAMOND
1F537 LARGE BLUE DIAMOND
1F538 SMALL ORANGE DIAMOND
1F539 SMALL BLUE DIAMOND
1F53A UP-POINTING RED TRIANGLE
1F53B DOWN-POINTING RED TRIANGLE
1F53C UP-POINTING SMALL RED TRIANGLE
1F53D DOWN-POINTING SMALL RED TRIANGLE
1F53E LOWER RIGHT SHADOWED WHITE CIRCLE
1F53F UPPER RIGHT SHADOWED WHITE CIRCLE
1F540 CIRCLED CROSS POMMEE
1F541 CROSS POMMEE WITH HALF-CIRCLE BELOW
1F542 CROSS POMMEE
1F543 NOTCHED LEFT SEMICIRCLE WITH THREE DOTS
1F544 NOTCHED RIGHT SEMICIRCLE WITH THREE DOTS
1F545 SYMBOL FOR MARKS CHAPTER
1F546 WHITE LATIN CROSS
1F547 HEAVY LATIN CROSS
1F548 CELTIC CROSS
1F549 OM SYMBOL
1F54A DOVE OF PEACE
1F54B KAABA
1F54C MOSQUE
1F54D SYNAGOGUE
1F54E MENORAH WITH NINE BRANCHES
1F54F BOWL OF HYGIEIA
1F550 CLOCK FACE ONE OCLOCK
1F551 CLOCK FACE TWO OCLOCK
1F552 CLOCK FACE THREE OCLOCK
1F553 CLOCK FACE FOUR OCLOCK
1F554 CLOCK FACE FIVE OCLOCK
1F555 CLOCK FACE SIX OCLOCK
1F556 CLOCK FACE SEVEN OCLOCK
1F557 CLOCK FACE EIGHT OCLOCK
1F558 CLOCK FACE NINE OCLOCK
1F559 CLOCK FACE TEN OCLOCK
1F55A CLOCK FACE ELEVEN OCLOCK
1F55B CLOCK FACE TWELVE OCLOCK
1F55C CLOCK FACE ONE-THIRTY
1F55D CLOCK FACE TWO-THIRTY
1F55E CLOCK FACE THREE-THIRTY
1F55F CLOCK FACE FOUR-THIRTY
1F560 CLOCK FACE FIVE-THIRTY
1F561 CLOCK FACE SIX-THIRTY
1F562 CLOCK FACE SEVEN-THIRTY
1F563 CLOCK FACE EIGHT-THIRTY
1F564 CLOCK FACE NINE-THIRTY
1F565 CLOCK FACE TEN-THIRTY
1F566 CLOCK FACE ELEVEN-THIRTY
1F567 CLOCK FACE TWELVE-THIRTY
1F568 RIGHT SPEAKER
1F569 RIGHT SPEAKER WITH ONE SOUND WAVE
1F56A RIGHT SPEAKER WITH THREE SOUND WAVES
1F56B BULLHORN
1F56C BULLHORN WITH SOUND WAVES
1F56D RINGING BELL
1F56E BOOK
1F56F CANDLE
1F570 MANTELPIECE CLOCK
1F571 BLACK SKULL AND CROSSBONES
1F572 NO PIRACY
1F573 HOLE
1F574 MAN IN BUSINESS SUIT LEVITATING
1F575 SLEUTH OR SPY
1F576 DARK SUNGLASSES
1F577 SPIDER
1F578 SPIDER WEB
1F579 JOYSTICK
1F57A MAN DANCING
1F57B LEFT HAND TELEPHONE RECEIVER
1F57C TELEPHONE RECEIVER WITH PAGE
1F57D RIGHT HAND TELEPHONE RECEIVER
1F57E WHITE TOUCHTONE TELEPHONE
1F57F BLACK TOUCHTONE TELEPHONE
1F580 TELEPHONE ON TOP OF MODEM
1F581 CLAMSHELL MOBILE PHONE
1F582 BACK OF ENVELOPE
1F583 STAMPED ENVELOPE
1F584 ENVELOPE WITH LIGHTNING
1F585 FLYING ENVELOPE
1F586 PEN OVER STAMPED ENVELOPE
1F587 LINKED PAPERCLIPS
1F588 BLACK PUSHPIN
1F589 LOWER LEFT PENCIL
1F58A LOWER LEFT BALLPOINT PEN
1F58B LOWER LEFT FOUNTAIN PEN
1F58C LOWER LEFT PAINTBRUSH
1F58D LOWER LEFT CRAYON
1F58E LEFT WRITING HAND
1F58F TURNED OK HAND SIGN
1F590 RAISED HAND WITH FINGERS SPLAYED
1F591 REVERSED RAISED HAND WITH FINGERS SPLAYED
1F592 REVERSED THUMBS UP SIGN
1F593 REVERSED THUMBS DOWN SIGN
1F594 REVERSED VICTORY HAND
1F595 REVERSED HAND WITH MIDDLE FINGER EXTENDED
1F596 RAISED HAND WITH PART BETWEEN MIDDLE AND RING FINGERS
1F597 WHITE DOWN POINTING LEFT HAND INDEX
1F598 SIDEWAYS WHITE LEFT POINTING INDEX
1F599 SIDEWAYS WHITE RIGHT POINTING INDEX
1F59A SIDEWAYS BLACK LEFT POINTING INDEX
1F59B SIDEWAYS BLACK RIGHT POINTING INDEX
1F59C BLACK LEFT POINTING BACKHAND INDEX
1F59D BLACK RIGHT POINTING BACKHAND INDEX
1F59E SIDEWAYS WHITE UP POINTING INDEX
1F59F SIDEWAYS WHITE DOWN POINTING INDEX
1F5A0 SIDEWAYS BLACK UP POINTING INDEX
1F5A1 SIDEWAYS BLACK DOWN POINTING INDEX
1F5A2 BLACK UP POINTING BACKHAND INDEX
1F5A3 BLACK DOWN POINTING BACKHAND INDEX
1F5A4 BLACK HEART
1F5A5 DESKTOP COMPUTER
1F5A6 KEYBOARD AND MOUSE
1F5A7 THREE NETWORKED COMPUTERS
1F5A8 PRINTER
1F5A9 POCKET CALCULATOR
1F5AA BLACK HARD SHELL FLOPPY DISK
1F5AB WHITE HARD SHELL FLOPPY DISK
1F5AC SOFT SHELL FLOPPY DISK
1F5AD TAPE CARTRIDGE
1F5AE WIRED KEYBOARD
1F5AF ONE BUTTON MOUSE
1F5B0 TWO BUTTON MOUSE
1F5B1 THREE BUTTON MOUSE
1F5B2 TRACKBALL
1F5B3 OLD PERSONAL COMPUTER
1F5B4 HARD DISK
1F5B5 SCREEN
1F5B6 PRINTER ICON
1F5B7 FAX ICON
1F5B8 OPTICAL DISC ICON
1F5B9 DOCUMENT WITH TEXT
1F5BA DOCUMENT WITH TEXT AND PICTURE
1F5BB DOCUMENT WITH PICTURE
1F5BC FRAME WITH PICTURE
1F5BD FRAME WITH TILES
1F5BE FRAME WITH AN X
1F5BF BLACK FOLDER
1F5C0 FOLDER
1F5C1 OPEN FOLDER
1F5C2 CARD INDEX DIVIDERS
1F5C3 CARD FILE BOX
1F5C4 FILE CABINET
1F5C5 EMPTY NOTE
1F5C6 EMPTY NOTE PAGE
1F5C7 EMPTY NOTE PAD
1F5C8 NOTE
1F5C9 NOTE PAGE
1F5CA NOTE PAD
1F5CB EMPTY DOCUMENT
1F5CC EMPTY PAGE
1F5CD EMPTY PAGES
1F5CE DOCUMENT
1F5CF PAGE
1F5D0 PAGES
1F5D1 WASTEBASKET
1F5D2 SPIRAL NOTE PAD
1F5D3 SPIRAL CALENDAR PAD
1F5D4 DESKTOP WINDOW
1F5D5 MINIMIZE
1F5D6 MAXIMIZE
1F5D7 OVERLAP
1F5D8 CLOCKWISE RIGHT AND LEFT SEMICIRCLE ARROWS
1F5D9 CANCELLATION X
1F5DA INCREASE FONT SIZE SYMBOL
1F5DB DECREASE FONT SIZE SYMBOL
1F5DC COMPRESSION
1F5DD OLD KEY
1F5DE ROLLED-UP NEWSPAPER
1F5DF PAGE WITH CIRCLED TEXT
1F5E0 STOCK CHART
1F5E1 DAGGER KNIFE
1F5E2 LIPS
1F5E3 SPEAKING HEAD IN SILHOUETTE
1F5E4 THREE RAYS ABOVE
1F5E5 THREE RAYS BELOW
1F5E6 THREE RAYS LEFT
1F5E7 THREE RAYS RIGHT
1F5E8 LEFT SPEECH BUBBLE
1F5E9 RIGHT SPEECH BUBBLE
1F5EA TWO SPEECH BUBBLES
1F5EB THREE SPEECH BUBBLES
1F5EC LEFT THOUGHT BUBBLE
1F5ED RIGHT THOUGHT BUBBLE
1F5EE LEFT ANGER BUBBLE
1F5EF RIGHT ANGER BUBBLE
1F5F0 MOOD BUBBLE
1F5F1 LIGHTNING MOOD BUBBLE
1F5F2 LIGHTNING MOOD
1F5F3 BALLOT BOX WITH BALLOT
1F5F4 BALLOT SCRIPT X
1F5F5 BALLOT BOX WITH SCRIPT X
1F5F6 BALLOT BOLD SCRIPT X
1F5F7 BALLOT BOX WITH BOLD SCRIPT X
1F5F8 LIGHT CHECK MARK
1F5F9 BALLOT BOX WITH BOLD CHECK
1F5FA WORLD MAP
1F5FB MOUNT FUJI
1F5FC TOKYO TOWER
1F5FD STATUE OF LIBERTY
1F5FE SILHOUETTE OF JAPAN
1F5FF MOYAI
1F600 GRINNING FACE
1F601 GRINNING FACE WITH SMILING EYES
1F602 FACE WITH TEARS OF JOY
1F603 SMILING FACE WITH OPEN MOUTH
1F604 SMILING FACE WITH OPEN MOUTH AND SMILING EYES
1F605 SMILING FACE WITH OPEN MOUTH AND COLD SWEAT
1F606 SMILING FACE WITH OPEN MOUTH AND TIGHTLY-CLOSED EYES
1F607 SMILING FACE WITH HALO
1F608 SMILING FACE WITH HORNS
1F609 WINKING FACE
1F60A SMILING FACE WITH SMILING EYES
1F60B FACE SAVOURING DELICIOUS FOOD
1F60C RELIEVED FACE
1F60D SMILING FACE WITH HEART-SHAPED EYES
1F60E SMILING FACE WITH SUNGLASSES
1F60F SMIRKING FACE
1F610 NEUTRAL FACE
1F611 EXPRESSIONLESS FACE
1F612 UNAMUSED FACE
1F613 FACE WITH COLD SWEAT
1F614 PENSIVE FACE
1F615 CONFUSED FACE
1F616 CONFOUNDED FACE
1F617 KISSING FACE
1F618 FACE THROWING A KISS
1F619 KISSING FACE WITH SMILING EYES
1F61A KISSING FACE WITH CLOSED EYES
1F61B FACE WITH STUCK-OUT TONGUE
1F61C FACE WITH STUCK-OUT TONGUE AND WINKING EYE
1F61D FACE WITH STUCK-OUT TONGUE AND TIGHTLY-CLOSED EYES
1F61E DISAPPOINTED FACE
1F61F WORRIED FACE
1F620 ANGRY FACE
1F621 POUTING FACE
1F622 CRYING FACE
1F623 PERSEVERING FACE
1F624 FACE WITH LOOK OF TRIUMPH
1F625 DISAPPOINTED BUT RELIEVED FACE
1F626 FROWNING FACE WITH OPEN MOUTH
1F627 ANGUISHED FACE
1F628 FEARFUL FACE
1F629 WEARY FACE
1F62A SLEEPY FACE
1F62B TIRED FACE
1F62C GRIMACING FACE
1F62D LOUDLY CRYING FACE
1F62E FACE WITH OPEN MOUTH
1F62F HUSHED FACE
1F630 FACE WITH OPEN MOUTH AND COLD SWEAT
1F631 FACE SCREAMING IN FEAR
1F632 ASTONISHED FACE
1F633 FLUSHED FACE
1F634 SLEEPING FACE
1F635 DIZZY FACE
1F636 FACE WITHOUT MOUTH
1F637 FACE WITH MEDICAL MASK
1F638 GRINNING CAT FACE WITH SMILING EYES
1F639 CAT FACE WITH TEARS OF JOY
1F63A SMILING CAT FACE WITH OPEN MOUTH
1F63B SMILING CAT FACE WITH HEART-SHAPED EYES
1F63C CAT FACE WITH WRY SMILE
1F63D KISSING CAT FACE WITH CLOSED EYES
1F63E POUTING CAT FACE
1F63F CRYING CAT FACE
1F640 WEARY CAT FACE
1F641 SLIGHTLY FROWNING FACE
1F642 SLIGHTLY SMILING FACE
1F643 UPSIDE-DOWN FACE
1F644 FACE WITH ROLLING EYES
1F645 FACE WITH NO GOOD GESTURE
1F646 FACE WITH OK GESTURE
1F647 PERSON BOWING DEEPLY
1F648 SEE-NO-EVIL MONKEY
1F649 HEAR-NO-EVIL MONKEY
1F64A SPEAK-NO-EVIL MONKEY
1F64B HAPPY PERSON RAISING ONE HAND
1F64C PERSON RAISING BOTH HANDS IN CELEBRATION
1F64D PERSON FROWNING
1F64E PERSON WITH POUTING FACE
1F64F PERSON WITH FOLDED HANDS
1F680 ROCKET
1F681 HELICOPTER
1F682 STEAM LOCOMOTIVE
1F683 RAILWAY CAR
1F684 HIGH-SPEED TRAIN
1F685 HIGH-SPEED TRAIN WITH BULLET NOSE
1F686 TRAIN
1F687 METRO
1F688 LIGHT RAIL
1F689 STATION
1F68A TRAM
1F68B TRAM CAR
1F68C BUS
1F68D ONCOMING BUS
1F68E TROLLEYBUS
1F68F BUS STOP
1F690 MINIBUS
1F691 AMBULANCE
1F692 FIRE ENGINE
1F693 POLICE CAR
1F694 ONCOMING POLICE CAR
1F695 TAXI
1F696 ONCOMING TAXI
1F697 AUTOMOBILE
1F698 ONCOMING AUTOMOBILE
1F699 RECREATIONAL VEHICLE
1F69A DELIVERY TRUCK
1F69B ARTICULATED LORRY
1F69C TRACTOR
1F69D MONORAIL
1F69E MOUNTAIN RAILWAY
1F69F SUSPENSION RAILWAY
1F6A0 MOUNTAIN CABLEWAY
1F6A1 AERIAL TRAMWAY
1F6A2 SHIP
1F6A3 ROWBOAT
1F6A4 SPEEDBOAT
1F6A5 HORIZONTAL TRAFFIC LIGHT
1F6A6 VERTICAL TRAFFIC LIGHT
1F6A7 CONSTRUCTION SIGN
1F6A8 POLICE CARS REVOLVING LIGHT
1F6A9 TRIANGULAR FLAG ON POST
1F6AA DOOR
1F6AB NO ENTRY SIGN
1F6AC SMOKING SYMBOL
1F6AD NO SMOKING SYMBOL
1F6AE PUT LITTER IN ITS PLACE SYMBOL
1F6AF DO NOT LITTER SYMBOL
1F6B0 POTABLE WATER SYMBOL
1F6B1 NON-POTABLE WATER SYMBOL
1F6B2 BICYCLE
1F6B3 NO BICYCLES
1F6B4 BICYCLIST
1F6B5 MOUNTAIN BICYCLIST
1F6B6 PEDESTRIAN
1F6B7 NO PEDESTRIANS
1F6B8 CHILDREN CROSSING
1F6B9 MENS SYMBOL
1F6BA WOMENS SYMBOL
1F6BB RESTROOM
1F6BC BABY SYMBOL
1F6BD TOILET
1F6BE WATER CLOSET
1F6BF SHOWER
1F6C0 BATH
1F6C1 BATHTUB
1F6C2 PASSPORT CONTROL
1F6C3 CUSTOMS
1F6C4 BAGGAGE CLAIM
1F6C5 LEFT LUGGAGE
1F6C6 TRIANGLE WITH ROUNDED CORNERS
1F6C7 PROHIBITED SIGN
1F6C8 CIRCLED INFORMATION SOURCE
1F6C9 BOYS SYMBOL
1F6CA GIRLS SYMBOL
1F6CB COUCH AND LAMP
1F6CC SLEEPING ACCOMMODATION
1F6CD SHOPPING BAGS
1F6CE BELLHOP BELL
1F6CF BED
1F6D0 PLACE OF WORSHIP
1F6D1 OCTAGONAL SIGN
1F6D2 SHOPPING TROLLEY
1F6D3 STUPA
1F6D4 PAGODA
1F6D5 HINDU TEMPLE
1F6D6 HUT
1F6D7 ELEVATOR
1F6DD PLAYGROUND SLIDE
1F6DE WHEEL
1F6DF RING BUOY
1F6E0 HAMMER AND WRENCH
1F6E1 SHIELD
1F6E2 OIL DRUM
1F6E3 MOTORWAY
1F6E4 RAILWAY TRACK
1F6E5 MOTOR BOAT
1F6E6 UP-POINTING MILITARY AIRPLANE
1F6E7 UP-POINTING AIRPLANE
1F6E8 UP-POINTING SMALL AIRPLANE
1F6E9 SMALL AIRPLANE
1F6EA NORTHEAST-POINTING AIRPLANE
1F6EB AIRPLANE DEPARTURE
1F6EC AIRPLANE ARRIVING
1F6F0 SATELLITE
1F6F1 ONCOMING FIRE ENGINE
1F6F2 DIESEL LOCOMOTIVE
1F6F3 PASSENGER SHIP
1F6F4 SCOOTER
1F6F5 MOTOR SCOOTER
1F6F6 CANOE
1F6F7 SLED
1F6F8 FLYING SAUCER
1F6F9 SKATEBOARD
1F6FA AUTO RICKSHAW
1F6FB PICKUP TRUCK
1F6FC ROLLER SKATE
1F900 CIRCLED CROSS FORMEE WITH FOUR DOTS
1F901 CIRCLED CROSS FORMEE WITH TWO DOTS
1F902 CIRCLED CROSS FORMEE
1F903 LEFT HALF CIRCLE WITH FOUR DOTS
1F904 LEFT HALF CIRCLE WITH THREE DOTS
1F905 LEFT HALF CIRCLE WITH TWO DOTS
1F906 LEFT HALF CIRCLE WITH DOT
1F907 LEFT HALF CIRCLE
1F908 DOWNWARD FACING HOOK
1F909 DOWNWARD FACING NOTCHED HOOK
1F90A DOWNWARD FACING HOOK WITH DOT
1F90B DOWNWARD FACING NOTCHED HOOK WITH DOT
1F90C PINCHED FINGERS
1F90D WHITE HEART
1F90E BROWN HEART
1F90F PINCHING HAND
1F910 ZIPPER-MOUTH FACE
1F911 MONEY-MOUTH FACE
1F912 FACE WITH THERMOMETER
1F913 NERD FACE
1F914 THINKING FACE
1F915 FACE WITH HEAD-BANDAGE
1F916 ROBOT FACE
1F917 HUGGING FACE
1F918 SIGN OF THE HORNS
1F919 CALL ME HAND
1F91A RAISED BACK OF HAND
1F91B LEFT-FACING FIST
1F91C RIGHT-FACING FIST
1F91D HANDSHAKE
1F91E HAND WITH INDEX AND MIDDLE FINGERS CROSSED
1F91F I LOVE YOU HAND SIGN
1F920 FACE WITH COWBOY HAT
1F921 CLOWN FACE
1F922 NAUSEATED FACE
1F923 ROLLING ON THE FLOOR LAUGHING
1F924 DROOLING FACE
1F925 LYING FACE
1F926 FACE PALM
1F927 SNEEZING FACE
1F928 FACE WITH ONE EYEBROW RAISED
1F929 GRINNING FACE WITH STAR EYES
1F92A GRINNING FACE WITH ONE LARGE AND ONE SMALL EYE
1F92B FACE WITH FINGER COVERING CLOSED LIPS
1F92C SERIOUS FACE WITH SYMBOLS COVERING MOUTH
1F92D SMILING FACE WITH SMILING EYES AND HAND COVERING MOUTH
1F92E FACE WITH OPEN MOUTH VOMITING
1F92F SHOCKED FACE WITH EXPLODING HEAD
1F930 PREGNANT WOMAN
1F931 BREAST-FEEDING
1F932 PALMS UP TOGETHER
1F933 SELFIE
1F934 PRINCE
1F935 MAN IN TUXEDO
1F936 MOTHER CHRISTMAS
1F937 SHRUG
1F938 PERSON DOING CARTWHEEL
1F939 JUGGLING
1F93A FENCER
1F93B MODERN PENTATHLON
1F93C WRESTLERS
1F93D WATER POLO
1F93E HANDBALL
1F93F DIVING MASK
1F940 WILTED FLOWER
1F941 DRUM WITH DRUMSTICKS
1F942 CLINKING GLASSES
1F943 TUMBLER GLASS
1F944 SPOON
1F945 GOAL NET
1F946 RIFLE
1F947 FIRST PLACE MEDAL
1F948 SECOND PLACE MEDAL
1F949 THIRD PLACE MEDAL
1F94A BOXING GLOVE
1F94B MARTIAL ARTS UNIFORM
1F94C CURLING STONE
1F94D LACROSSE STICK AND BALL
1F94E SOFTBALL
1F94F FLYING DISC
1F950 CROISSANT
1F951 AVOCADO
1F952 CUCUMBER
1F953 BACON
1F954 POTATO
1F955 CARROT
1F956 BAGUETTE BREAD
1F957 GREEN SALAD
1F958 SHALLOW PAN OF FOOD
1F959 STUFFED FLATBREAD
1F95A EGG
1F95B GLASS OF MILK
1F95C PEANUTS
1F95D KIWIFRUIT
1F95E PANCAKES
1F95F DUMPLING
1F960 FORTUNE COOKIE
1F961 TAKEOUT BOX
1F962 CHOPSTICKS
1F963 BOWL WITH SPOON
1F964 CUP WITH STRAW
1F965 COCONUT
1F966 BROCCOLI
1F967 PIE
1F968 PRETZEL
1F969 CUT OF MEAT
1F96A SANDWICH
1F96B CANNED FOOD
1F96C LEAFY GREEN
1F96D MANGO
1F96E MOON CAKE
1F96F BAGEL
1F970 SMILING FACE WITH SMILING EYES AND THREE HEARTS
1F971 YAWNING FACE
1F972 SMILING FACE WITH TEAR
1F973 FACE WITH PARTY HORN AND PARTY HAT
1F974 FACE WITH UNEVEN EYES AND WAVY MOUTH
1F975 OVERHEATED FACE
1F976 FREEZING FACE
1F977 NINJA
1F978 DISGUISED FACE
1F979 FACE HOLDING BACK TEARS
1F97A FACE WITH PLEADING EYES
1F97B SARI
1F97C LAB COAT
1F97D GOGGLES
1F97E HIKING BOOT
1F97F FLAT SHOE
1F980 CRAB
1F981 LION FACE
1F982 SCORPION
1F983 TURKEY
1F984 UNICORN FACE
1F985 EAGLE
1F986 DUCK
1F987 BAT
1F988 SHARK
1F989 OWL
1F98A FOX FACE
1F98B BUTTERFLY
1F98C DEER
1F98D GORILLA
1F98E LIZARD
1F98F RHINOCEROS
1F990 SHRIMP
1F991 SQUID
1F992 GIRAFFE FACE
1F993 ZEBRA FACE
1F994 HEDGEHOG
1F995 SAUROPOD
1F996 T-REX
1F997 CRICKET
1F998 KANGAROO
1F999 LLAMA
1F99A PEACOCK
1F99B HIPPOPOTAMUS
1F99C PARROT
1F99D RACCOON
1F99E LOBSTER
1F99F MOSQUITO
1F9A0 MICROBE
1F9A1 BADGER
1F9A2 SWAN
1F9A3 MAMMOTH
1F9A4 DODO
1F9A5 SLOTH
1F9A6 OTTER
1F9A7 ORANGUTAN
1F9A8 SKUNK
1F9A9 FLAMINGO
1F9AA OYSTER
1F9AB BEAVER
1F9AC BISON
1F9AD SEAL
1F9AE GUIDE DOG
1F9AF PROBING CANE
1F9B0 EMOJI COMPONENT RED HAIR
1F9B1 EMOJI COMPONENT CURLY HAIR
1F9B2 EMOJI COMPONENT BALD
1F9B3 EMOJI COMPONENT WHITE HAIR
1F9B4 BONE
1F9B5 LEG
1F9B6 FOOT
1F9B7 TOOTH
1F9B8 SUPERHERO
1F9B9 SUPERVILLAIN
1F9BA SAFETY VEST
1F9BB EAR WITH HEARING AID
1F9BC MOTORIZED WHEELCHAIR
1F9BD MANUAL WHEELCHAIR
1F9BE MECHANICAL ARM
1F9BF MECHANICAL LEG
1F9C0 CHEESE WEDGE
1F9C1 CUPCAKE
1F9C2 SALT SHAKER
1F9C3 BEVERAGE BOX
1F9C4 GARLIC
1F9C5 ONION
1F9C6 FALAFEL
1F9C7 WAFFLE
1F9C8 BUTTER
1F9C9 MATE DRINK
1F9CA ICE CUBE
1F9CB BUBBLE TEA
1F9CC TROLL
1F9CD STANDING PERSON
1F9CE KNEELING PERSON
1F9CF DEAF PERSON
1F9D0 FACE WITH MONOCLE
1F9D1 ADULT
1F9D2 CHILD
1F9D3 OLDER ADULT
1F9D4 BEARDED PERSON
1F9D5 PERSON WITH HEADSCARF
1F9D6 PERSON IN STEAMY ROOM
1F9D7 PERSON CLIMBING
1F9D8 PERSON IN LOTUS POSITION
1F9D9 MAGE
1F9DA FAIRY
1F9DB VAMPIRE
1F9DC MERPERSON
1F9DD ELF
1F9DE GENIE
1F9DF ZOMBIE
1F9E0 BRAIN
1F9E1 ORANGE HEART
1F9E2 BILLED CAP
1F9E3 SCARF
1F9E4 GLOVES
1F9E5 COAT
1F9E6 SOCKS
1F9E7 RED GIFT ENVELOPE
1F9E8 FIRECRACKER
1F9E9 JIGSAW PUZZLE PIECE
1F9EA TEST TUBE
1F9EB PETRI DISH
1F9EC DNA DOUBLE HELIX
1F9ED COMPASS
1F9EE ABACUS
1F9EF FIRE EXTINGUISHER
1F9F0 TOOLBOX
1F9F1 BRICK
1F9F2 MAGNET
1F9F3 LUGGAGE
1F9F4 LOTION BOTTLE
1F9F5 SPOOL OF THREAD
1F9F6 BALL OF YARN
1F9F7 SAFETY PIN
1F9F8 TEDDY BEAR
1F9F9 BROOM
1F9FA BASKET
1F9FB ROLL OF PAPER
1F9FC BAR OF SOAP
1F9FD SPONGE
1F9FE RECEIPT
1F9FF NAZAR AMULET
0 NULL
1 START OF HEADING
2 START OF TEXT
3 END OF TEXT
4 END OF TRANSMISSION
5 ENQUIRY
6 ACKNOWLEDGE
7 ALERT
8 BACKSPACE
9 CHARACTER TABULATION
9 HORIZONTAL TABULATION
A LINE FEED
A NEW LINE
A END OF LINE
B LINE TABULATION
B VERTICAL TABULATION
C FORM FEED
D CARRIAGE RETURN
E SHIFT OUT
F SHIFT IN
E LOCKING-SHIFT ONE
F LOCKING-SHIFT ZERO
10 DATA LINK ESCAPE
11 DEVICE CONTROL ONE
12 DEVICE CONTROL TWO
13 DEVICE CONTROL THREE
14 DEVICE CONTROL FOUR
15 NEGATIVE ACKNOWLEDGE
16 SYNCHRONOUS IDLE
17 END OF TRANSMISSION BLOCK
18 CANCEL
19 END OF MEDIUM
1A SUBSTITUTE
1B ESCAPE
1C INFORMATION SEPARATOR FOUR
1C FILE SEPARATOR
1D INFORMATION SEPARATOR THREE
1D GROUP SEPARATOR
1E INFORMATION SEPARATOR TWO
1E RECORD SEPARATOR
1F INFORMATION SEPARATOR ONE
1F UNIT SEPARATOR
7F DELETE
80 PADDING CHARACTER
81 HIGH OCTET PRESET
82 BREAK PERMITTED HERE
83 NO BREAK HERE
84 INDEX
85 NEXT LINE
86 START OF SELECTED AREA
87 END OF SELECTED AREA
9B CONTROL SEQUENCE INTRODUCER
9C STRING TERMINATOR
9D OPERATING SYSTEM COMMAND
9E PRIVACY MESSAGE
9F APPLICATION PROGRAM COMMAND
0 NUL
1 SOH
2 STX
3 ETX
4 EOT
5 ENQ
6 ACK
7 BEL
8 BS
9 HT
9 TAB
A LF
A NL
A EOL
B VT
C FF
D CR
E SO
F SI
10 DLE
11 DC1
12 DC2
13 DC3
14 DC4
15 NAK
16 SYN
17 ETB
18 CAN
19 EOM
1A SUB
1B ESC
1C FS
1D GS
1E RS
1F US
20 SP
7F DEL
A0 NBSP
AD SHY
85 NEL
200B ZWSP
200C ZWNJ
200D ZWJ
200E LRM
200F RLM
FEFF BOM
FEFF ZWNBSP
FEFF BYTE ORDER MARK
2060 WJ
202F NNBSP
34F CGJ
202A LRE
202B RLE
202C PDF
202D LRO
202E RLO
2066 LRI
2067 RLI
2068 FSI
2069 PDI
61C ALM
1A3 LATIN SMALL LETTER GHA
1A2 LATIN CAPITAL LETTER GHA
2118 WEIERSTRASS ELLIPTIC FUNCTION"

/-- The value of upper-case hexadecimal digits. -/
def hexValueFrom (acc : Nat) : List Char → Option Nat
  | [] => some acc
  | c :: cs =>
    let n := c.toNat
    if 48 ≤ n && n ≤ 57 then hexValueFrom (acc * 16 + (n - 48)) cs
    else if 65 ≤ n && n ≤ 70 then hexValueFrom (acc * 16 + (n - 55)) cs
    else none

/-- The value of a number of at least one upper-case hexadecimal digit. -/
def hexValue? : List Char → Option Nat
  | [] => none
  | cs => hexValueFrom 0 cs

/-- Reads one line of the table. -/
def charNameLine? (line : String) : Option (Nat × List Char) :=
  let cs := line.toList
  (hexValue? (cs.takeWhile (· != ' '))).map fun n => (n, (cs.dropWhile (· != ' ')).drop 1)

/-- The ranges of the unified ideographs. -/
def ideographRanges : List (Nat × Nat) :=
  [(0x3400, 0x4DBF), (0x4E00, 0x9FFF), (0x20000, 0x2A6DF), (0x2A700, 0x2B738),
   (0x2B740, 0x2B81D), (0x2B820, 0x2CEA1), (0x2CEB0, 0x2EBE0), (0x30000, 0x3134A)]

/-- The rest of a text behind a given beginning. -/
def afterStart? : (start : List Char) → List Char → Option (List Char)
  | [], cs => some cs
  | s :: ss, c :: cs => if s == c then afterStart? ss cs else none
  | _ :: _, [] => none

/-- The names of the letters that a Hangul syllable may start with. -/
def hangulFirst : List String :=
  ["G", "GG", "N", "D", "DD", "R", "M", "B", "BB", "S", "SS", "", "J", "JJ", "C", "K", "T", "P", "H"]

/-- The names of the vowels of a Hangul syllable. -/
def hangulVowel : List String :=
  ["A", "AE", "YA", "YAE", "EO", "E", "YEO", "YE", "O", "WA", "WAE", "OE", "YO", "U", "WEO", "WE",
   "WI", "YU", "EU", "YI", "I"]

/-- The names of the letters that a Hangul syllable may end with. -/
def hangulLast : List String :=
  ["", "G", "GG", "GS", "N", "NJ", "NH", "D", "L", "LG", "LM", "LB", "LS", "LT", "LP", "LH", "M", "B",
   "BS", "S", "SS", "NG", "J", "C", "K", "T", "P", "H"]

/-- The place of a Hangul syllable among all syllables. -/
def hangulIndex? (name : List Char) : Option Nat :=
  hangulFirst.zipIdx.findSome? fun (l, i) => do
    let rest ← afterStart? l.toList name
    hangulVowel.zipIdx.findSome? fun (v, j) => do
      let rest ← afterStart? v.toList rest
      hangulLast.zipIdx.findSome? fun (t, k) =>
        if t.toList == rest then some ((i * 21 + j) * 28 + k) else none

/-- The code of the character with the given name. -/
def charNamed? (name : List Char) : Option Nat :=
  match afterStart? "HANGUL SYLLABLE ".toList name with
  | some rest => (hangulIndex? rest).map (0xAC00 + ·)
  | none =>
    match afterStart? "CJK UNIFIED IDEOGRAPH-".toList name with
    | some digits =>
      if digits.length == 4 || digits.length == 5 then
        (hexValue? digits).filter fun n =>
          ideographRanges.any fun r => decide (r.1 ≤ n) && decide (n ≤ r.2)
      else none
    | none =>
      (charNameLines.splitOn "\n").findSome? fun line =>
        match charNameLine? line with
        | some (n, known) => if known == name.map Char.toUpper then some n else none
        | none => none

end Conformity.Text
